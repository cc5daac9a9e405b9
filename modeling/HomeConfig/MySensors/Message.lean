import HomeConfig.Library.BitField
import HomeConfig.Arduino.CString
import Mathlib.Data.List.GetD

/-! The MySensors message: header bit fields, typed payloads, and their setters
and getters. -/
namespace MySensors

open Arduino

def protocolVersion : Byte := 2#8

def headerSize : ℕ := 7

def maxPayload : ℕ := 25

/-! ### Codes of the command, type and payload type fields -/

def cPresentation : Byte := 0#8
def cSet : Byte := 1#8
def cReq : Byte := 2#8
def cInternal : Byte := 3#8
def cStream : Byte := 4#8

theorem cSet_ne_cReq : cSet ≠ cReq := by decide

def vTemp : Byte := 0#8
def vHum : Byte := 1#8
def vStatus : Byte := 2#8
def vHvacFlowState : Byte := 21#8
def vHvacSpeed : Byte := 22#8
def vHvacSetpointCool : Byte := 44#8
def vHvacSetpointHeat : Byte := 45#8

def pString : Byte := 0#8
def pByte : Byte := 1#8
def pInt16 : Byte := 2#8
def pUInt16 : Byte := 3#8
def pLong32 : Byte := 4#8
def pULong32 : Byte := 5#8
def pCustom : Byte := 6#8
def pFloat32 : Byte := 7#8

/-- The header bytes and the payload buffer. Bytes past the end of `data` read as zero. -/
structure MyMessage where
  last : Byte
  sender : Byte
  destination : Byte
  versionLength : Byte
  commandAckPayload : Byte
  type : Byte
  sensor : Byte
  data : List Byte
deriving DecidableEq, Repr

namespace MyMessage

variable {m : MyMessage}

/-! ### Bit fields of the header -/

def getVersion (m : MyMessage) : Byte := BitField.extract m.versionLength 0 2
def getSigned (m : MyMessage) : Bool := BitField.extract m.versionLength 2 1 != 0#8
def getLength (m : MyMessage) : Byte := BitField.extract m.versionLength 3 5
def getCommand (m : MyMessage) : Byte := BitField.extract m.commandAckPayload 0 3
def getRequestAck (m : MyMessage) : Bool := BitField.extract m.commandAckPayload 3 1 != 0#8
def isAck (m : MyMessage) : Bool := BitField.extract m.commandAckPayload 4 1 != 0#8
def getPayloadType (m : MyMessage) : Byte := BitField.extract m.commandAckPayload 5 3

def setVersion (m : MyMessage) (version : Byte) : MyMessage :=
  { m with versionLength := BitField.insert m.versionLength version 0 2 }

def setLength (m : MyMessage) (length : Byte) : MyMessage :=
  { m with versionLength := BitField.insert m.versionLength length 3 5 }

def setCommand (m : MyMessage) (command : Byte) : MyMessage :=
  { m with commandAckPayload := BitField.insert m.commandAckPayload command 0 3 }

def setRequestAck (m : MyMessage) (ack : Bool) : MyMessage :=
  { m with commandAckPayload :=
      BitField.insert m.commandAckPayload (if ack then 1#8 else 0#8) 3 1 }

def setAck (m : MyMessage) (ack : Bool) : MyMessage :=
  { m with commandAckPayload :=
      BitField.insert m.commandAckPayload (if ack then 1#8 else 0#8) 4 1 }

def setPayloadType (m : MyMessage) (payloadType : Byte) : MyMessage :=
  { m with commandAckPayload := BitField.insert m.commandAckPayload payloadType 5 3 }

/-- The cleared message, addressed to the gateway. -/
def clear : MyMessage :=
  setVersion ⟨0#8, 0#8, 0#8, 0#8, 0#8, 0#8, 0#8, []⟩ protocolVersion

/-- The constructor `MyMessage(sensor, type)`. -/
def new (sensor type : Byte) : MyMessage := { clear with sensor, type }

/-! ### Payload setters -/

/-- Write the first bytes of the payload union; the bytes behind them stay. -/
def write (m : MyMessage) (payloadType : Byte) (length : ℕ) (bytes : List Byte) : MyMessage :=
  { (m.setLength (BitVec.ofNat 8 length)).setPayloadType payloadType with
    data := bytes ++ m.data.drop bytes.length }

def littleEndian (count value : ℕ) : List Byte :=
  (List.range count).map fun i => BitVec.ofNat 8 (value / 256 ^ i)

/-- What a message carries of a text. -/
def onWire (text : List Byte) : List Byte := (cString text).take maxPayload

/-- `set(const char *)`: cut to the payload size and terminated. -/
def setString (m : MyMessage) (value : List Byte) : MyMessage :=
  m.write pString (onWire value).length (onWire value ++ [0#8])

def setBool (m : MyMessage) (value : Bool) : MyMessage :=
  m.write pByte 1 [if value then 1#8 else 0#8]

def setByte (m : MyMessage) (value : Byte) : MyMessage := m.write pByte 1 [value]

def setInt (m : MyMessage) (value : ℤ) : MyMessage :=
  m.write pInt16 2 (littleEndian 2 (BitVec.ofInt 16 value).toNat)

def setFloat (m : MyMessage) (value : BitVec 32) (decimals : Byte) : MyMessage :=
  m.write pFloat32 5 (littleEndian 4 value.toNat ++ [decimals])

/-! ### Payload getters -/

/-- The first `count` bytes of the payload union as one little endian number. -/
def read (m : MyMessage) (count : ℕ) : ℕ :=
  (List.range count).foldr (fun i n => (m.data.getD i 0#8).toNat * 256 ^ i + n) 0

def bValue (m : MyMessage) : Byte := m.data.getD 0 0#8
def iValue (m : MyMessage) : ℤ := (BitVec.ofNat 16 (m.read 2)).toInt
def uiValue (m : MyMessage) : ℕ := m.read 2
def lValue (m : MyMessage) : ℤ := (BitVec.ofNat 32 (m.read 4)).toInt
def ulValue (m : MyMessage) : ℕ := m.read 4
def fValue (m : MyMessage) : BitVec 32 := BitVec.ofNat 32 (m.read 4)
def fPrecision (m : MyMessage) : ℕ := (m.data.getD 4 0#8).toNat

/-- The text of a hexadecimal digit, `i2h`. -/
def i2h (i : Byte) : Byte :=
  let k := i &&& 0x0f#8
  if k ≤ 9#8 then 48#8 + k else 65#8 + k - 10#8

def getCustomString (m : MyMessage) : List Byte :=
  (List.range m.getLength.toNat).flatMap fun i =>
    [i2h (m.data.getD i 0#8 >>> 4), i2h (m.data.getD i 0#8)]

/-- `getString(buffer)`: the payload as the text that the gateway forwards. -/
def getString (m : MyMessage) : List Byte :=
  if m.getPayloadType = pString then cString (m.data.take m.getLength.toNat)
  else if m.getPayloadType = pByte then itoa m.bValue.toNat
  else if m.getPayloadType = pInt16 then itoa m.iValue
  else if m.getPayloadType = pUInt16 then itoa m.uiValue
  else if m.getPayloadType = pLong32 then itoa m.lValue
  else if m.getPayloadType = pULong32 then itoa m.ulValue
  else if m.getPayloadType = pFloat32 then dtostrf (.ofBits m.fValue) 2 (min m.fPrecision 8)
  else getCustomString m

def getByte (m : MyMessage) : Byte :=
  if m.getPayloadType = pByte then m.bValue
  else if m.getPayloadType = pString then BitVec.ofInt 8 (atoi (cString m.data))
  else 0#8

def getBool (m : MyMessage) : Bool := m.getByte != 0#8

def getFloat (m : MyMessage) : Single :=
  if m.getPayloadType = pFloat32 then .ofBits m.fValue
  else if m.getPayloadType = pString then atof (cString m.data)
  else .finite 0

/-! ### Setters and getters of different fields -/

@[simp] theorem type_setCommand (c : Byte) : (m.setCommand c).type = m.type := rfl
@[simp] theorem sensor_setCommand (c : Byte) : (m.setCommand c).sensor = m.sensor := rfl
@[simp] theorem data_setCommand (c : Byte) : (m.setCommand c).data = m.data := rfl
@[simp] theorem type_setRequestAck (b : Bool) : (m.setRequestAck b).type = m.type := rfl
@[simp] theorem sensor_setRequestAck (b : Bool) : (m.setRequestAck b).sensor = m.sensor := rfl
@[simp] theorem data_setRequestAck (b : Bool) : (m.setRequestAck b).data = m.data := rfl
@[simp] theorem type_setAck (b : Bool) : (m.setAck b).type = m.type := rfl
@[simp] theorem sensor_setAck (b : Bool) : (m.setAck b).sensor = m.sensor := rfl
@[simp] theorem data_setAck (b : Bool) : (m.setAck b).data = m.data := rfl
@[simp] theorem type_write (p : Byte) (n : ℕ) (bs : List Byte) : (m.write p n bs).type = m.type := rfl
@[simp] theorem sensor_write (p : Byte) (n : ℕ) (bs : List Byte) :
    (m.write p n bs).sensor = m.sensor := rfl
@[simp] theorem data_write (p : Byte) (n : ℕ) (bs : List Byte) :
    (m.write p n bs).data = bs ++ m.data.drop bs.length := rfl

theorem getCommand_setCommand {c : Byte} (hc : c.toNat < 8) : (m.setCommand c).getCommand = c := by
  simp only [getCommand, setCommand]
  rw [BitField.extract_insert_self (by omega), BitField.extract_of_lt (by simpa using hc)]

@[simp] theorem getCommand_setRequestAck (b : Bool) :
    (m.setRequestAck b).getCommand = m.getCommand :=
  BitField.extract_insert_of_disjoint (by omega)

@[simp] theorem getCommand_setAck (b : Bool) : (m.setAck b).getCommand = m.getCommand :=
  BitField.extract_insert_of_disjoint (by omega)

@[simp] theorem isAck_setCommand (c : Byte) : (m.setCommand c).isAck = m.isAck := by
  simp only [isAck, setCommand]
  rw [BitField.extract_insert_of_disjoint (by omega)]

@[simp] theorem isAck_setRequestAck (b : Bool) : (m.setRequestAck b).isAck = m.isAck := by
  simp only [isAck, setRequestAck]
  rw [BitField.extract_insert_of_disjoint (by omega)]

@[simp] theorem isAck_setAck (b : Bool) : (m.setAck b).isAck = b := by
  simp only [isAck, setAck]
  rw [BitField.extract_insert_self (by omega)]
  cases b <;> decide

@[simp] theorem getPayloadType_setCommand (c : Byte) :
    (m.setCommand c).getPayloadType = m.getPayloadType :=
  BitField.extract_insert_of_disjoint (by omega)

@[simp] theorem getPayloadType_setRequestAck (b : Bool) :
    (m.setRequestAck b).getPayloadType = m.getPayloadType :=
  BitField.extract_insert_of_disjoint (by omega)

@[simp] theorem getPayloadType_setAck (b : Bool) :
    (m.setAck b).getPayloadType = m.getPayloadType :=
  BitField.extract_insert_of_disjoint (by omega)

@[simp] theorem getCommand_write (p : Byte) (n : ℕ) (bs : List Byte) :
    (m.write p n bs).getCommand = m.getCommand :=
  BitField.extract_insert_of_disjoint (by omega)

@[simp] theorem isAck_write (p : Byte) (n : ℕ) (bs : List Byte) :
    (m.write p n bs).isAck = m.isAck := by
  simp only [isAck, write, setPayloadType, setLength]
  rw [BitField.extract_insert_of_disjoint (by omega)]

@[simp] theorem getVersion_write (p : Byte) (n : ℕ) (bs : List Byte) :
    (m.write p n bs).getVersion = m.getVersion :=
  BitField.extract_insert_of_disjoint (by omega)

@[simp] theorem getSigned_write (p : Byte) (n : ℕ) (bs : List Byte) :
    (m.write p n bs).getSigned = m.getSigned := by
  simp only [getSigned, write, setPayloadType, setLength]
  rw [BitField.extract_insert_of_disjoint (by omega)]

@[simp] theorem getRequestAck_setRequestAck (b : Bool) : (m.setRequestAck b).getRequestAck = b := by
  simp only [getRequestAck, setRequestAck]
  rw [BitField.extract_insert_self (by omega)]
  cases b <;> decide

@[simp] theorem getRequestAck_setAck (b : Bool) : (m.setAck b).getRequestAck = m.getRequestAck := by
  simp only [getRequestAck, setAck]
  rw [BitField.extract_insert_of_disjoint (by omega)]

@[simp] theorem getRequestAck_write (p : Byte) (n : ℕ) (bs : List Byte) :
    (m.write p n bs).getRequestAck = m.getRequestAck := by
  simp only [getRequestAck, write, setPayloadType, setLength]
  rw [BitField.extract_insert_of_disjoint (by omega)]

theorem getCommand_lt (m : MyMessage) : m.getCommand.toNat < 8 := BitField.toNat_extract_lt

theorem getPayloadType_write {p : Byte} (hp : p.toNat < 8) (n : ℕ) (bs : List Byte) :
    (m.write p n bs).getPayloadType = p := by
  simp only [getPayloadType, write, setPayloadType]
  rw [BitField.extract_insert_self (by omega), BitField.extract_of_lt (by simpa using hp)]

theorem getLength_write {n : ℕ} (hn : n < 32) (p : Byte) (bs : List Byte) :
    (m.write p n bs).getLength.toNat = n := by
  have hmod : n % 2 ^ 8 = n := Nat.mod_eq_of_lt (by omega)
  simp only [getLength, write, setPayloadType, setLength]
  rw [BitField.extract_insert_self (by omega), BitField.extract_of_lt] <;>
    simp only [BitVec.toNat_ofNat, hmod]
  exact hn

/-! ### What a payload setter stores is what the gateway forwards -/

/-- The text form depends on the payload, not on the command or the ack bits. -/
theorem getString_congr {n : MyMessage} (ht : n.getPayloadType = m.getPayloadType)
    (hl : n.versionLength = m.versionLength) (hd : n.data = m.data) :
    n.getString = m.getString := by
  simp only [getString, getCustomString, getLength, bValue, iValue, uiValue, lValue, ulValue,
    fValue, fPrecision, read, ht, hl, hd]

theorem foldr_bytes_lt (byte : ℕ → Byte) (k a : ℕ) :
    (List.range k).foldr (fun i n => (byte i).toNat * 256 ^ i + n) a < 256 ^ k + a := by
  induction k generalizing a with
  | zero => simp
  | succ k ih =>
    rw [List.range_succ, List.foldr_append, List.foldr_cons, List.foldr_nil]
    refine (ih _).trans_le ?_
    have hbyte : (byte k).toNat * 256 ^ k ≤ 255 * 256 ^ k :=
      Nat.mul_le_mul_right _ (Nat.le_of_lt_succ (byte k).isLt)
    rw [pow_succ]
    omega

theorem read_lt (m : MyMessage) (count : ℕ) : m.read count < 256 ^ count :=
  foldr_bytes_lt (fun i => m.data.getD i 0#8) count 0

/-- Whatever the payload is, its text has a bound. -/
theorem length_getString_le (m : MyMessage) : m.getString.length ≤ 62 := by
  have hlength : m.getLength.toNat < 32 := BitField.toNat_extract_lt
  have htwo := m.read_lt 2
  have hfour := m.read_lt 4
  unfold getString
  split
  · have htext : (cString (m.data.take m.getLength.toNat)).length ≤ m.getLength.toNat :=
      (List.takeWhile_prefix _).length_le.trans (List.length_take_le _ _)
    omega
  split
  · have hbyte := m.bValue.isLt
    exact (length_itoa_le (k := 3) (by decide) (by omega)).trans (by decide)
  split
  · have hlow := (BitVec.ofNat 16 (m.read 2)).le_toInt
    have hhigh := (BitVec.ofNat 16 (m.read 2)).toInt_lt
    exact (length_itoa_le (k := 5) (by decide) (by unfold iValue; omega)).trans (by decide)
  split
  · exact (length_itoa_le (k := 5) (by decide) (by unfold uiValue; omega)).trans (by decide)
  split
  · have hlow := (BitVec.ofNat 32 (m.read 4)).le_toInt
    have hhigh := (BitVec.ofNat 32 (m.read 4)).toInt_lt
    exact (length_itoa_le (k := 10) (by decide) (by unfold lValue; omega)).trans (by decide)
  split
  · exact (length_itoa_le (k := 10) (by decide) (by unfold ulValue; omega)).trans (by decide)
  split
  · have hprecision : min m.fPrecision 8 ≤ 8 := Nat.min_le_right _ _
    refine (length_dtostrf_le (k := 39) (by decide) (by omega) fun q hq => ?_).trans (by omega)
    exact (Single.abs_lt_of_ofBits hq).trans (by norm_num)
  · have hcustom : m.getCustomString.length = 2 * m.getLength.toNat := by
      simp [getCustomString, List.length_flatMap, Nat.mul_comm]
    omega

/-- A text fits a message when it is not cut. -/
structure Fits (text : List Byte) : Prop where
  length_le : text.length ≤ maxPayload
  no_nul : 0#8 ∉ text

theorem fits_itoa {n : ℤ} (hl : -32768 ≤ n) (hu : n ≤ 32767) : Fits (itoa n) := by
  have hlen : (itoa n).length ≤ 5 + 1 := length_itoa_le (by decide) (by omega)
  refine ⟨?_, nul_not_mem_itoa n⟩
  rw [maxPayload]
  omega

theorem onWire_of_fits {text : List Byte} (h : Fits text) : onWire text = text := by
  rw [onWire, cString_eq_self h.no_nul, List.take_of_length_le h.length_le]

theorem fits_onWire (text : List Byte) : Fits (onWire text) := by
  refine ⟨List.length_take_le _ _, ?_⟩
  intro h
  have hc := List.mem_takeWhile_imp (List.mem_of_mem_take h)
  simp at hc

theorem getString_setString {text : List Byte} (h : Fits text) :
    (m.setString text).getString = text := by
  have hlen := h.length_le
  simp only [maxPayload] at hlen
  simp only [getString, setString, onWire_of_fits h]
  rw [getPayloadType_write (by decide), if_pos rfl, getLength_write (by omega)]
  simp [cString_eq_self h.no_nul]

theorem cString_data_setString (text : List Byte) :
    cString (m.setString text).data = onWire text := by
  simp only [setString, data_write, List.append_assoc, List.singleton_append]
  exact cString_terminated (fits_onWire text).no_nul _

theorem getString_setBool (b : Bool) :
    (m.setBool b).getString = if b then ascii "1" else ascii "0" := by
  have hp : (m.setBool b).getPayloadType = pByte := getPayloadType_write (by decide) _ _
  have hb : (m.setBool b).bValue = if b then 1#8 else 0#8 := rfl
  simp only [getString, hp, hb]
  rw [if_neg (by decide), if_pos trivial]
  cases b <;> decide

theorem foldr_digits (v k a : ℕ) :
    (List.range k).foldr (fun i n => v / 256 ^ i % 256 * 256 ^ i + n) a = v % 256 ^ k + a := by
  induction k generalizing a with
  | zero => simp [Nat.mod_one]
  | succ k ih =>
    rw [List.range_succ, List.foldr_append, List.foldr_cons, List.foldr_nil, ih, Nat.mod_pow_succ,
      Nat.mul_comm (256 ^ k), Nat.add_assoc]

/-- A number is read back up to the bytes that were written. -/
theorem read_littleEndian (v k : ℕ) (p : Byte) (n : ℕ) (rest : List Byte) :
    (m.write p n (littleEndian k v ++ rest)).read k = v % 256 ^ k := by
  rw [← Nat.add_zero (v % 256 ^ k), ← foldr_digits, read]
  apply List.foldr_ext
  intro i hi a
  have hi := List.mem_range.mp hi
  have hlen : i < (littleEndian k v).length := by simpa [littleEndian] using hi
  have hbyte : (m.write p n (littleEndian k v ++ rest)).data.getD i 0#8 =
      BitVec.ofNat 8 (v / 256 ^ i) := by
    rw [data_write, List.append_assoc, List.getD_append _ _ _ _ hlen, littleEndian,
      List.getD_eq_getElem _ _ (by simpa [littleEndian] using hi)]
    simp
  rw [hbyte, BitVec.toNat_ofNat]

theorem getString_setInt {n : ℤ} (hl : -32768 ≤ n) (hu : n ≤ 32767) :
    (m.setInt n).getString = itoa n := by
  have hp : (m.setInt n).getPayloadType = pInt16 := getPayloadType_write (by decide) _ _
  have hi : (m.setInt n).iValue = n := by
    simp only [iValue, setInt]
    have hread := read_littleEndian (m := m) (BitVec.ofInt 16 n).toNat 2 pInt16 2 []
    rw [List.append_nil] at hread
    have hlt : (BitVec.ofInt 16 n).toNat < 256 ^ 2 := BitVec.isLt _
    rw [hread, Nat.mod_eq_of_lt hlt, BitVec.ofNat_toNat, BitVec.setWidth_eq,
      BitVec.toInt_ofInt, Int.bmod_eq_of_le] <;> omega
  simp only [getString, hp, hi]
  rfl

theorem getFloat_setFloat (value : BitVec 32) (decimals : Byte) :
    (m.setFloat value decimals).getFloat = .ofBits value := by
  have hp : (m.setFloat value decimals).getPayloadType = pFloat32 :=
    getPayloadType_write (by decide) _ _
  have hv : (m.setFloat value decimals).fValue = value := by
    have hlt : value.toNat < 256 ^ 4 := value.isLt
    rw [fValue, setFloat, read_littleEndian, Nat.mod_eq_of_lt hlt, BitVec.ofNat_toNat,
      BitVec.setWidth_eq]
  rw [getFloat, if_pos hp, hv]

/-- The number depends on the payload alone. -/
theorem getFloat_congr {n : MyMessage} (ht : n.getPayloadType = m.getPayloadType)
    (hd : n.data = m.data) : n.getFloat = m.getFloat := by
  simp only [getFloat, fValue, read, ht, hd]

/-- What a received text shows to `atof` and to `atoi`. -/
theorem getFloat_setString (text : List Byte) :
    (m.setString text).getFloat = atof (onWire text) := by
  have hp : (m.setString text).getPayloadType = pString := getPayloadType_write (by decide) _ _
  simp only [getFloat, hp, cString_data_setString]
  rfl

theorem getByte_setString (text : List Byte) :
    (m.setString text).getByte = BitVec.ofInt 8 (atoi (onWire text)) := by
  have hp : (m.setString text).getPayloadType = pString := getPayloadType_write (by decide) _ _
  simp only [getByte, hp, cString_data_setString]
  rfl

end MyMessage

end MySensors
