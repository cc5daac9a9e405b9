import HomeConfig.HeatPumpNode.Asked
import Mathlib.Data.List.Forall2
import Mathlib.Tactic.IntervalCases

/-! The infrared frames: what is put on the light for a command, and what a receiver that measures the
pauses only roughly makes of it. -/
namespace HeatPumpNode

open Arduino MySensors

/-! ### The sender -/

/-- Light or no light, for some microseconds. -/
inductive Pulse where
  | mark (time : ℕ)
  | space (time : ℕ)
deriving DecidableEq, Repr

def hdrMark : ℕ := 3400
def hdrSpace : ℕ := 1750
def bitMark : ℕ := 450
def oneSpace : ℕ := 1300
/-- The header defines the macro twice; the second definition is in force. -/
def zeroSpace : ℕ := 472
def rptMark : ℕ := 440
def rptSpace : ℕ := 17100

def powerByte (off : ℤ) : Byte := if off ≠ 0 then 0x00#8 else 0x20#8

/-- The fan mode is none of this unit's and leaves the byte as the array has it. -/
def modeByte : HvacMode → Byte
  | .hot => 0x08#8
  | .cold => 0x18#8
  | .dry => 0x10#8
  | .auto => 0x20#8
  | .fan => 0x08#8

def clampTemp (temp : ℤ) : ℤ := if temp > 31 then 31 else if temp < 16 then 16 else temp

/-- Speed 5 is considered as speed 4. -/
def fanByte : HvacFanMode → Byte
  | .speed1 => 0b00000001#8
  | .speed2 => 0b00000010#8
  | .speed3 => 0b00000011#8
  | .speed4 => 0b00000100#8
  | .speed5 => 0b00000100#8
  | .speedAuto => 0b10000000#8
  | .speedSilent => 0b00000101#8

def vanneByte : HvacVanneMode → Byte
  | .auto => 0b01000000#8
  | .h1 => 0b01001000#8
  | .h2 => 0b01010000#8
  | .h3 => 0b01011000#8
  | .h4 => 0b01100000#8
  | .h5 => 0b01101000#8
  | .autoMove => 0b01111000#8

/-- The check is a simple addition. -/
def crc (bytes : List Byte) : Byte := bytes.foldl (fun sum b => b + sum) 0#8

def dataBody (c : HvacCommand) : List Byte :=
  [0x23#8, 0xCB#8, 0x26#8, 0x01#8, 0x00#8, powerByte c.off, modeByte c.mode,
    BitVec.ofInt 8 (clampTemp c.temp.val) - 16#8, 0x30#8, fanByte c.fanMode ||| vanneByte c.vanneMode,
    0x67#8, 0x00#8, 0x00#8, 0x00#8, 0x00#8, 0x00#8, 0x00#8]

def data (c : HvacCommand) : List Byte := dataBody c ++ [crc (dataBody c)]

/-- The bits of a byte, the lowest first. -/
def bitsOf (b : Byte) : List Bool := (List.range 8).map b.getLsbD

def sendBit (bit : Bool) : List Pulse :=
  if bit then [.mark bitMark, .space oneSpace] else [.mark bitMark, .space zeroSpace]

def packet (c : HvacCommand) : List Pulse :=
  [.mark hdrMark, .space hdrSpace] ++ ((data c).flatMap bitsOf).flatMap sendBit ++
    [.mark rptMark, .space rptSpace, .space 0]

/-- The packet is sent two times. -/
def sendHvacMitsubishi (c : HvacCommand) : List Pulse := .space 0 :: (packet c ++ packet c)

/-! ### A receiver -/

/-- The settings that a frame can express. -/
structure Settings where
  on : Bool
  mode : HvacMode
  temp : ℕ
  fan : HvacFanMode
  vanne : HvacVanneMode
deriving DecidableEq, Repr

inductive Symbol where
  | bit (value : Bool)
  | header
  | gap
deriving DecidableEq, Repr

/-- The pauses are told apart half way between their lengths. -/
def classify (time : ℕ) : Symbol :=
  if time < 886 then .bit false
  else if time < 1525 then .bit true
  else if time < 9000 then .header
  else .gap

def spaces (pulses : List Pulse) : List ℕ :=
  pulses.filterMap fun | .space time => some time | .mark _ => none

/-- The bits between each header and the gap behind it. -/
def frames : Option (List Bool) → List Symbol → List (List Bool)
  | _, [] => []
  | _, .header :: symbols => frames (some []) symbols
  | none, .bit _ :: symbols => frames none symbols
  | some bits, .bit value :: symbols => frames (some (bits ++ [value])) symbols
  | none, .gap :: symbols => frames none symbols
  | some bits, .gap :: symbols => bits :: frames none symbols

def byteOf (bits : List Bool) : Byte :=
  bits.foldr (fun bit b => (b <<< 1) ||| (if bit then 1#8 else 0#8)) 0#8

/-- Eight bits a byte; bits that are left over make the frame invalid. -/
def bytesOf : List Bool → Option (List Byte)
  | [] => some []
  | a :: b :: c :: d :: e :: f :: g :: h :: bits =>
    (bytesOf bits).map (byteOf [a, b, c, d, e, f, g, h] :: ·)
  | _ => none

def modeOf (b : Byte) : Option HvacMode :=
  if b = 0x08#8 then some .hot else if b = 0x18#8 then some .cold
  else if b = 0x10#8 then some .dry else if b = 0x20#8 then some .auto else none

def fanOf (b : Byte) : Option HvacFanMode :=
  if b = 1#8 then some .speed1 else if b = 2#8 then some .speed2 else if b = 3#8 then some .speed3
  else if b = 4#8 then some .speed4 else if b = 0x80#8 then some .speedAuto
  else if b = 5#8 then some .speedSilent else none

def vanneOf (b : Byte) : Option HvacVanneMode :=
  if b = 0x40#8 then some .auto else if b = 0x48#8 then some .h1 else if b = 0x50#8 then some .h2
  else if b = 0x58#8 then some .h3 else if b = 0x60#8 then some .h4 else if b = 0x68#8 then some .h5
  else if b = 0x78#8 then some .autoMove else none

/-- A frame of eighteen bytes that begins as it should and whose last byte is the sum of the others. -/
def settingsOf (bytes : List Byte) : Option Settings :=
  match bytes with
  | [b0, b1, b2, b3, b4, power, mode, temp, b8, fan, b10, b11, b12, b13, b14, b15, b16, check] =>
    if [b0, b1, b2, b3, b4] = [0x23#8, 0xCB#8, 0x26#8, 0x01#8, 0x00#8] ∧
        check.toNat = ([b0, b1, b2, b3, b4, power, mode, temp, b8, fan, b10, b11, b12, b13, b14, b15,
          b16].map BitVec.toNat).sum % 256 ∧
        temp < 16#8 then
      (modeOf mode).bind fun mode =>
        (fanOf (fan &&& 0x87#8)).bind fun speed =>
          (vanneOf (fan &&& 0x78#8)).map fun vanne =>
            ⟨power == 0x20#8, mode, temp.toNat + 16, speed, vanne⟩
    else none
  | _ => none

def listen (pulses : List Pulse) : List Settings :=
  (frames none ((spaces pulses).map classify)).filterMap fun bits => (bytesOf bits).bind settingsOf

/-- What a command comes to: the unit knows no fan mode and no fan speed 5, and no temperature but those
from 16 to 31 degrees. -/
def shown (c : HvacCommand) : Settings where
  on := c.off == 0
  mode := if c.mode = .fan then .hot else c.mode
  temp := (max 16 (min 31 c.temp.val)).toNat
  fan := if c.fanMode = .speed5 then .speed4 else c.fanMode
  vanne := c.vanneMode

/-- The same pulse, with a time that is wrong by less than a fifth of a millisecond. -/
inductive Near : Pulse → Pulse → Prop
  | mark (s t : ℕ) : Near (.mark s) (.mark t)
  | space {s t : ℕ} : s ≤ t + 200 → t ≤ s + 200 → Near (.space s) (.space t)

/-! ### Pauses and symbols -/

variable {c : HvacCommand} {ps qs : List Pulse}

/-- The lengths of the pauses that are sent. -/
def Sent (time : ℕ) : Prop :=
  time = 0 ∨ time = zeroSpace ∨ time = oneSpace ∨ time = hdrSpace ∨ time = rptSpace

theorem classify_near {s t : ℕ} (hs : Sent s) (hst : s ≤ t + 200) (hts : t ≤ s + 200) :
    classify t = classify s := by
  unfold Sent zeroSpace oneSpace hdrSpace rptSpace at hs
  unfold classify
  rcases hs with rfl | rfl | rfl | rfl | rfl
  · rw [if_pos (by omega), if_pos (by omega)]
  · rw [if_pos (by omega), if_pos (by omega)]
  · rw [if_neg (by omega), if_pos (by omega), if_neg (by omega), if_pos (by omega)]
  · rw [if_neg (by omega), if_neg (by omega), if_pos (by omega), if_neg (by omega),
      if_neg (by omega), if_pos (by omega)]
  · rw [if_neg (by omega), if_neg (by omega), if_neg (by omega), if_neg (by omega),
      if_neg (by omega), if_neg (by omega)]

theorem symbols_near (h : List.Forall₂ Near ps qs) (hsent : ∀ t ∈ spaces ps, Sent t) :
    (spaces qs).map classify = (spaces ps).map classify := by
  induction h with
  | nil => rfl
  | @cons p q ps qs hpq _ ih =>
    cases hpq with
    | mark s t => exact ih hsent
    | @space s t hst hts =>
      have hs := classify_near (hsent s List.mem_cons_self) hst hts
      have hrest := ih fun t ht => hsent t (List.mem_cons_of_mem _ ht)
      have hcons : ∀ (time : ℕ) (rest : List Pulse),
          (spaces (.space time :: rest)).map classify = classify time :: (spaces rest).map classify :=
        fun _ _ => rfl
      rw [hcons, hcons, hs, hrest]

theorem spaces_append (ps qs : List Pulse) : spaces (ps ++ qs) = spaces ps ++ spaces qs :=
  List.filterMap_append

theorem spaces_bits (bits : List Bool) : spaces (bits.flatMap sendBit) =
    bits.map fun bit => if bit then oneSpace else zeroSpace := by
  induction bits with
  | nil => rfl
  | cons bit bits ih =>
    rw [List.flatMap_cons, spaces_append, ih]
    cases bit <;> rfl

theorem spaces_packet (c : HvacCommand) : spaces (packet c) =
    hdrSpace :: (((data c).flatMap bitsOf).map fun bit => if bit then oneSpace else zeroSpace) ++
      [rptSpace, 0] := by
  unfold packet
  rw [spaces_append, spaces_append, spaces_bits]
  rfl

theorem sent_packet (c : HvacCommand) : ∀ t ∈ spaces (packet c), Sent t := by
  intro t ht
  rw [spaces_packet, List.cons_append] at ht
  rcases List.mem_cons.mp ht with rfl | ht
  · exact .inr (.inr (.inr (.inl rfl)))
  · rcases List.mem_append.mp ht with ht | ht
    · obtain ⟨bit, -, rfl⟩ := List.mem_map.mp ht
      cases bit
      · exact .inr (.inl rfl)
      · exact .inr (.inr (.inl rfl))
    · simp only [List.mem_cons, List.not_mem_nil, or_false] at ht
      rcases ht with rfl | rfl
      · exact .inr (.inr (.inr (.inr rfl)))
      · exact .inl rfl

/-! ### Symbols and frames -/

theorem frames_bits (bits more : List Bool) (symbols : List Symbol) :
    frames (some bits) (more.map .bit ++ symbols) = frames (some (bits ++ more)) symbols := by
  induction more generalizing bits with
  | nil => rw [List.map_nil, List.nil_append, List.append_nil]
  | cons bit more ih =>
    rw [List.map_cons, List.cons_append, frames, ih, List.append_assoc, List.singleton_append]

theorem frames_packet (c : HvacCommand) (symbols : List Symbol) :
    frames none ((spaces (packet c)).map classify ++ symbols) =
      (data c).flatMap bitsOf :: frames none symbols := by
  have hbits : (((data c).flatMap bitsOf).map fun bit => if bit then oneSpace else zeroSpace).map
      classify = ((data c).flatMap bitsOf).map .bit := by
    rw [List.map_map]
    refine List.map_congr_left fun bit _ => ?_
    cases bit <;> rfl
  have hheader : classify hdrSpace = .header := by decide
  have hgap : [rptSpace, 0].map classify = [.gap, .bit false] := by decide
  rw [spaces_packet, List.cons_append, List.map_cons, List.map_append, hbits, hheader, hgap,
    List.cons_append, List.append_assoc, frames, frames_bits]
  rfl

theorem byteOf_bitsOf (b : Byte) : byteOf (bitsOf b) = b := by
  revert b
  decide +kernel

theorem bytesOf_flatMap (bytes : List Byte) : bytesOf (bytes.flatMap bitsOf) = some bytes := by
  induction bytes with
  | nil => rfl
  | cons b bytes ih =>
    have hcons : bytesOf (bitsOf b ++ bytes.flatMap bitsOf) =
        (bytesOf (bytes.flatMap bitsOf)).map (byteOf (bitsOf b) :: ·) := rfl
    rw [List.flatMap_cons, hcons, ih, byteOf_bitsOf]
    rfl

/-! ### Frames and settings -/

theorem clampTemp_eq (temp : ℤ) : clampTemp temp = max 16 (min 31 temp) := by
  unfold clampTemp
  split
  · omega
  · split
    · omega
    · omega

theorem toNat_crc (bytes : List Byte) : (crc bytes).toNat = (bytes.map BitVec.toNat).sum % 256 := by
  have hfold : ∀ (bytes : List Byte) (sum : Byte), (bytes.foldl (fun sum b => b + sum) sum).toNat =
      (sum.toNat + (bytes.map BitVec.toNat).sum) % 256 := by
    intro bytes
    induction bytes with
    | nil =>
      intro sum
      have hlt := sum.isLt
      rw [List.foldl_nil, List.map_nil, List.sum_nil]
      omega
    | cons b bytes ih =>
      intro sum
      rw [List.foldl_cons, ih, List.map_cons, List.sum_cons, BitVec.toNat_add]
      omega
  have hsum := hfold bytes 0#8
  rwa [BitVec.toNat_zero, Nat.zero_add] at hsum

theorem tempByte_eq {k : ℤ} (hl : 16 ≤ k) (hu : k ≤ 31) :
    BitVec.ofInt 8 k - 16#8 < 16#8 ∧ (BitVec.ofInt 8 k - 16#8).toNat + 16 = k.toNat := by
  interval_cases k <;> decide

theorem modeOf_modeByte (mode : HvacMode) :
    modeOf (modeByte mode) = some (if mode = .fan then .hot else mode) := by
  cases mode <;> rfl

theorem fanOf_fanByte (fan : HvacFanMode) (vanne : HvacVanneMode) :
    fanOf ((fanByte fan ||| vanneByte vanne) &&& 0x87#8) =
      some (if fan = .speed5 then .speed4 else fan) := by
  cases fan <;> cases vanne <;> rfl

theorem vanneOf_vanneByte (fan : HvacFanMode) (vanne : HvacVanneMode) :
    vanneOf ((fanByte fan ||| vanneByte vanne) &&& 0x78#8) = some vanne := by
  cases fan <;> cases vanne <;> rfl

theorem powerByte_eq (off : ℤ) : (powerByte off == 0x20#8) = (off == 0) := by
  unfold powerByte
  by_cases h : off = 0
  · rw [if_neg (not_not.mpr h), h]
    rfl
  · rw [if_pos h]
    simp [h]

theorem settingsOf_data (c : HvacCommand) : settingsOf (data c) = some (shown c) := by
  have hclamp := clampTemp_eq c.temp.val
  obtain ⟨hlt, htemp⟩ := tempByte_eq (k := clampTemp c.temp.val) (by omega) (by omega)
  have hcheck := toNat_crc (dataBody c)
  unfold data settingsOf
  unfold dataBody at hcheck ⊢
  dsimp only [List.cons_append, List.nil_append]
  rw [if_pos ⟨rfl, hcheck, hlt⟩, modeOf_modeByte, Option.bind_some, fanOf_fanByte, Option.bind_some,
    vanneOf_vanneByte, Option.map_some, powerByte_eq, htemp, hclamp]
  rfl

/-! ### Several commands -/

theorem spaces_send (c : HvacCommand) :
    spaces (sendHvacMitsubishi c) = 0 :: (spaces (packet c) ++ spaces (packet c)) := by
  rw [← spaces_append]
  rfl

theorem sent_send (c : HvacCommand) : ∀ t ∈ spaces (sendHvacMitsubishi c), Sent t := by
  intro t ht
  rw [spaces_send] at ht
  rcases List.mem_cons.mp ht with rfl | ht
  · exact .inl rfl
  · rcases List.mem_append.mp ht with ht | ht
    · exact sent_packet c t ht
    · exact sent_packet c t ht

theorem frames_send (c : HvacCommand) (symbols : List Symbol) :
    frames none ((spaces (sendHvacMitsubishi c)).map classify ++ symbols) =
      (data c).flatMap bitsOf :: (data c).flatMap bitsOf :: frames none symbols := by
  have hzero : classify 0 = .bit false := by decide
  rw [spaces_send, List.map_cons, List.map_append, hzero, List.cons_append, List.append_assoc, frames,
    frames_packet, frames_packet]

theorem sent_commands (cs : List HvacCommand) :
    ∀ t ∈ spaces (cs.flatMap sendHvacMitsubishi), Sent t := by
  induction cs with
  | nil => exact fun t ht => absurd ht List.not_mem_nil
  | cons c cs ih =>
    intro t ht
    rw [List.flatMap_cons, spaces_append] at ht
    rcases List.mem_append.mp ht with ht | ht
    · exact sent_send c t ht
    · exact ih t ht

theorem frames_commands (cs : List HvacCommand) :
    frames none ((spaces (cs.flatMap sendHvacMitsubishi)).map classify) =
      cs.flatMap fun c => [(data c).flatMap bitsOf, (data c).flatMap bitsOf] := by
  induction cs with
  | nil => rfl
  | cons c cs ih =>
    rw [List.flatMap_cons, spaces_append, List.map_append, frames_send, ih, List.flatMap_cons]
    rfl

/-- Whatever the commands, and although every pause is measured only to a fifth of a millisecond, the
receiver hears what each command comes to, twice. -/
theorem listen_commands {cs : List HvacCommand} {pulses : List Pulse}
    (h : List.Forall₂ Near (cs.flatMap sendHvacMitsubishi) pulses) :
    listen pulses = cs.flatMap fun c => [shown c, shown c] := by
  have hread : ∀ cs : List HvacCommand,
      (cs.flatMap fun c => [(data c).flatMap bitsOf, (data c).flatMap bitsOf]).filterMap
        (fun bits => (bytesOf bits).bind settingsOf) = cs.flatMap fun c => [shown c, shown c] := by
    intro cs
    induction cs with
    | nil => rfl
    | cons c cs ih =>
      have hbytes : (bytesOf ((data c).flatMap bitsOf)).bind settingsOf = some (shown c) := by
        rw [bytesOf_flatMap, Option.bind_some, settingsOf_data]
      rw [List.flatMap_cons, List.filterMap_append, ih, List.flatMap_cons]
      simp only [List.filterMap_cons, List.filterMap_nil, hbytes]
  unfold listen
  rw [symbols_near h (sent_commands cs), frames_commands, hread]

/-! ### What was asked for -/

theorem asked_mode_ne_fan (ms : List MyMessage) : (received ms).mode ≠ some .fan := by
  have hnote : ∀ (r : Received) (m : MyMessage), r.mode ≠ some .fan → (r.note m).mode ≠ some .fan := by
    intro r m hr
    unfold Received.note
    split
    · exact hr
    · split
      · exact hr
      · split
        · exact hr
        · split
          · split
            · rename_i flow _
              cases flow
              all_goals first | exact hr | (intro h; cases h)
            · exact hr
          · exact hr
  have hfold : ∀ (ms : List MyMessage) (r : Received), r.mode ≠ some .fan →
      (ms.foldl Received.note r).mode ≠ some .fan := by
    intro ms
    induction ms with
    | nil => exact fun _ hr => hr
    | cons m ms ih => exact fun r hr => ih _ (hnote r m hr)
  exact hfold ms .nothing (by decide)

/-- A message that makes a difference is followed by light for the node's new state. -/
theorem listen_receive {nodeId : Byte} {conv : FloatToInt} {n : Node} {m : MyMessage}
    {pulses : List Pulse} (hack : m.isAck = false) (hdiffers : Differs n m)
    (h : List.Forall₂ Near
      ((commandsOf (acted (receive nodeId conv n m).2)).flatMap sendHvacMitsubishi) pulses) :
    listen pulses = [shown (command (update conv n m).1), shown (command (update conv n m).1)] := by
  obtain ⟨-, hacted, -⟩ := receive_of_not_ack nodeId conv n hack
  have hchanged : (update conv n m).2 = true := changed_iff_differs.mpr hdiffers
  rw [hacted, if_pos hchanged] at h
  exact listen_commands h

/-- What the unit is told of settled settings. -/
theorem Settled.shown {nodeId : Byte} {conv : FloatToInt} {ms : List MyMessage} {m : MyMessage}
    (hsettled : Settled nodeId conv ms m) (hack : m.isAck = false)
    (hdiffers : Differs (after nodeId conv ms) m) :
    (shown (command (update conv (after nodeId conv ms) m).1)).on =
        !(received (ms ++ [m])).askedOff ∧
      (∀ mode, (received (ms ++ [m])).mode = some mode →
        (shown (command (update conv (after nodeId conv ms) m).1)).mode = mode) ∧
      (shown (command (update conv (after nodeId conv ms) m).1)).fan =
        (if (received (ms ++ [m])).askedFan = .speed5 then .speed4
          else (received (ms ++ [m])).askedFan) ∧
      ∃ k : ℤ, (received (ms ++ [m])).askedSetpoint = .finite k ∧
        (shown (command (update conv (after nodeId conv ms) m).1)).temp = (max 16 (min 31 k)).toNat := by
  have htracks : Tracks conv (received (ms ++ [m])) (update conv (after nodeId conv ms) m).1 :=
    (receive_of_not_ack nodeId conv (after nodeId conv ms) hack).1 ▸ tracks_after
  have htemp := (temp_shown_iff htracks).mpr hsettled.setpoint
  have hfan := (fan_shown_iff htracks).mpr hsettled.fan
  have hmode := (mode_shown_iff htracks).mpr hsettled.mode
  have hpower := (power_shown_iff htracks).mpr (hsettled.power hdiffers)
  refine ⟨?_, fun mode hasked => ?_, ?_, _, ?_, rfl⟩
  · have hoff : ((update conv (after nodeId conv ms) m).1.powerState == 0) =
        !(received (ms ++ [m])).askedOff := by
      cases hasked : (received (ms ++ [m])).askedOff with
      | true => simpa using hpower.mpr hasked
      | false =>
        have hzero : (update conv (after nodeId conv ms) m).1.powerState = 0 := by
          by_contra hne
          rw [hpower.mp hne] at hasked
          cases hasked
        rw [hzero]
        rfl
    exact hoff
  · have hnot : mode ≠ .fan := by
      rintro rfl
      exact asked_mode_ne_fan (ms ++ [m]) hasked
    have hnode := hmode mode hasked
    unfold HeatPumpNode.shown command
    dsimp only
    rw [hnode, if_neg hnot]
  · unfold HeatPumpNode.shown command
    dsimp only
    rw [hfan]
  · rw [← htemp]
    exact AvrInt.toSingle_eq

/-- When everything is settled, a message that makes a difference is followed by light from which the
heat pump learns what was asked for: power, mode, fan speed (5 being 4) and the setpoint, moved into
the range of the unit. -/
theorem heard_as_asked (nodeId : Byte) (conv : FloatToInt) (ms : List MyMessage) (m : MyMessage)
    (hack : m.isAck = false) (hsettled : Settled nodeId conv ms m)
    (hdiffers : Differs (after nodeId conv ms) m) (pulses : List Pulse)
    (h : List.Forall₂ Near ((commandsOf (acted (receive nodeId conv (after nodeId conv ms) m).2)).flatMap
      sendHvacMitsubishi) pulses) :
    ∃ heard, listen pulses = [heard, heard] ∧
      heard.on = !(received (ms ++ [m])).askedOff ∧
      (∀ mode, (received (ms ++ [m])).mode = some mode → heard.mode = mode) ∧
      heard.fan = (if (received (ms ++ [m])).askedFan = .speed5 then .speed4
        else (received (ms ++ [m])).askedFan) ∧
      ∃ k : ℤ, (received (ms ++ [m])).askedSetpoint = .finite k ∧ heard.temp = (max 16 (min 31 k)).toNat :=
  ⟨_, listen_receive hack hdiffers h, hsettled.shown hack hdiffers⟩

theorem near_refl (ps : List Pulse) : List.Forall₂ Near ps ps := by
  induction ps with
  | nil => exact .nil
  | cons p ps ih =>
    refine .cons ?_ ih
    cases p with
    | mark t => exact .mark t t
    | space t => exact .space (Nat.le_add_right _ _) (Nat.le_add_right _ _)

theorem heard_as_asked_max : ∃ heard, listen ((commandsOf (acted (receive 42#8 .orZero
      (after 42#8 .orZero [setMessage 42#8 speed (ascii "max"), setMessage 42#8 flowState (ascii "coolon")])
      (setMessage 42#8 setpointCool (ascii "35"))).2)).flatMap sendHvacMitsubishi) = [heard, heard] ∧
    heard.on = true ∧ heard.mode = .cold ∧ heard.fan = .speed4 ∧ heard.temp = 31 := by
  have hsettled : Settled 42#8 .orZero
      [setMessage 42#8 speed (ascii "max"), setMessage 42#8 flowState (ascii "coolon")]
      (setMessage 42#8 setpointCool (ascii "35")) :=
    ⟨⟨35, by decide, by decide, by decide +kernel⟩, by decide +kernel, by decide +kernel,
      fun _ => by decide +kernel⟩
  have hdiffers : Differs (after 42#8 .orZero [setMessage 42#8 speed (ascii "max"),
      setMessage 42#8 flowState (ascii "coolon")]) (setMessage 42#8 setpointCool (ascii "35")) :=
    .inl ⟨.inl rfl, by decide +kernel⟩
  obtain ⟨heard, hlisten, hon, hmode, hfan, k, hk, htemp⟩ := heard_as_asked 42#8 .orZero _ _
    (by decide +kernel) hsettled hdiffers _ (near_refl _)
  have hasked : (received ([setMessage 42#8 speed (ascii "max"), setMessage 42#8 flowState (ascii "coolon")] ++
      [setMessage 42#8 setpointCool (ascii "35")])).askedSetpoint = .finite (35 : ℤ) := by decide +kernel
  have hk35 : k = 35 := by
    have hfinite := Single.finite.inj (hk.symm.trans hasked)
    exact_mod_cast hfinite
  refine ⟨heard, hlisten, ?_, hmode .cold (by decide +kernel), ?_, ?_⟩
  · rw [hon]
    decide +kernel
  · rw [hfan]
    decide +kernel
  · rw [htemp, hk35]
    rfl

end HeatPumpNode
