import HomeConfig.Library.ShiftRegister
import HomeConfig.Arduino.CString

/-! The frame check of the radio driver, which the library computes a byte at a time. -/
namespace RadioHead

open Arduino ShiftRegister

variable {crc : BitVec 16} {data : Byte} {bytes bytes' : List Byte}

/-- `RHcrc_ccitt_update`. -/
def rhCrcCcittUpdate (crc : BitVec 16) (data : Byte) : BitVec 16 :=
  let data := data ^^^ crc.setWidth 8
  let data := data ^^^ (data <<< 4)
  ((data.setWidth 16 <<< 8) ||| (crc >>> 8)) ^^^ (data >>> 4).setWidth 16 ^^^
    (data.setWidth 16 <<< 3)

def ccitt (bytes : List Byte) : BitVec 16 := bytes.foldl rhCrcCcittUpdate 0xffff#16

/-- The CCITT polynomial, lowest power in the highest bit. -/
def ccittPoly : BitVec 16 := 0x8408#16

/-- A byte enters the register with its lowest bit first. -/
def crcBits (bytes : List Byte) : List Bool := bytes.flatMap (bits 8)

theorem ccittPoly_proper : Proper ccittPoly := by
  constructor <;> decide

/-- What the two statements on `data` make of the byte that meets the register. -/
def spread (v : Byte) : BitVec 16 :=
  let data := v ^^^ (v <<< 4)
  (data.setWidth 16 <<< 8) ^^^ (data >>> 4).setWidth 16 ^^^ (data.setWidth 16 <<< 3)

theorem spread_eq_feed (v : Byte) :
    spread v = feed ccittPoly (v.setWidth 16) (List.replicate 8 false) := by
  have hall : ∀ n < 256, spread (BitVec.ofNat 8 n) =
      feed ccittPoly ((BitVec.ofNat 8 n).setWidth 16) (List.replicate 8 false) := by decide +kernel
  have h := hall v.toNat v.isLt
  rwa [BitVec.ofNat_toNat, BitVec.setWidth_eq] at h

/-- The two halves of the new register do not overlap. -/
theorem or_eq_xor (d : Byte) :
    (d.setWidth 16 <<< 8) ||| (crc >>> 8) = (d.setWidth 16 <<< 8) ^^^ (crc >>> 8) := by
  apply BitVec.eq_of_getLsbD_eq
  intro i hi
  by_cases h : i < 8
  · simp [h]
  · simp [BitVec.getLsbD_of_ge crc (8 + i) (by omega)]

theorem rhCrcCcittUpdate_eq_spread :
    rhCrcCcittUpdate crc data = spread (data ^^^ crc.setWidth 8) ^^^ (crc >>> 8) := by
  simp only [rhCrcCcittUpdate, spread, or_eq_xor, BitVec.xor_assoc]
  congr 1
  rw [BitVec.xor_comm (crc >>> 8)]
  simp only [BitVec.xor_assoc]

/-- The update is eight shifts of the register. -/
theorem rhCrcCcittUpdate_eq_feed : rhCrcCcittUpdate crc data = feed ccittPoly crc (bits 8 data) := by
  have hbits : bits 8 data = bits 8 (data.setWidth 16) := by
    apply List.map_congr_left
    intro i hi
    have hi := List.mem_range.mp hi
    simp [BitVec.getLsbD_setWidth]
    omega
  have hdata : data.setWidth 16 >>> 8 = 0#16 := by
    apply BitVec.eq_of_getLsbD_eq
    intro i _
    simp
  have hlow : (crc ^^^ data.setWidth 16).setWidth 8 = data ^^^ crc.setWidth 8 := by
    rw [BitVec.setWidth_xor, BitVec.xor_comm, BitVec.setWidth_setWidth_of_le _ (by decide),
      BitVec.setWidth_eq]
  rw [rhCrcCcittUpdate_eq_spread, spread_eq_feed, hbits, feed_bits, hdata, BitVec.xor_zero,
    feed_low (crc ^^^ data.setWidth 16), hlow, BitVec.ushiftRight_xor_distrib, hdata, BitVec.xor_zero]

theorem foldl_rhCrcCcittUpdate :
    bytes.foldl rhCrcCcittUpdate crc = feed ccittPoly crc (crcBits bytes) := by
  induction bytes generalizing crc with
  | nil => rfl
  | cons data bytes ih =>
    rw [List.foldl_cons, ih, rhCrcCcittUpdate_eq_feed, crcBits, crcBits, List.flatMap_cons,
      feed_append]

@[simp] theorem length_crcBits : (crcBits bytes).length = 8 * bytes.length :=
  length_flatMap_bits bytes

/-- The residue of every message that is followed by the complement of its check, low byte first. -/
theorem ccitt_residue : ccitt (bytes ++ [(~~~ccitt bytes).setWidth 8, (~~~ccitt bytes >>> 8).setWidth 8]) =
    0xf0b8#16 := by
  generalize hc : ccitt bytes = c
  have hfold : ccitt (bytes ++ [(~~~c).setWidth 8, (~~~c >>> 8).setWidth 8]) =
      feed ccittPoly c (crcBits [(~~~c).setWidth 8, (~~~c >>> 8).setWidth 8]) := by
    rw [ccitt, List.foldl_append, ← ccitt, hc, foldl_rhCrcCcittUpdate]
  rw [hfold, feed_complement]
  · decide +kernel
  · simp [crcBits, bits, List.range_succ]

end RadioHead
