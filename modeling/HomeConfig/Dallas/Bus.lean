import HomeConfig.Library.ShiftRegister
import HomeConfig.Arduino.CString

/-! The temperature sensors on the wire: what each of them does in a time slot. The wire is low
as soon as anyone pulls it down. -/
namespace Dallas

open Arduino ShiftRegister

/-- The commands that a sensor knows. -/
def searchRom : Byte := 0xf0#8
def matchRom : Byte := 0x55#8
def skipRom : Byte := 0xcc#8
def startConvo : Byte := 0x44#8
def readScratch : Byte := 0xbe#8
def readPowerSupply : Byte := 0xb4#8

/-- A sensor: its address, the nine bytes that it shows, those that it will show after the next
conversion, whether it takes its power from the data wire, how many milliseconds a conversion takes, and
how many are left of the one that it is busy with. -/
structure Device where
  rom : List Byte
  scratchpad : List Byte
  measured : List Byte
  parasite : Bool
  conversionTime : ℕ
  converting : Option ℕ
  rom_length : rom.length = 8
  scratchpad_length : scratchpad.length = 9
  measured_length : measured.length = 9
deriving DecidableEq

def Device.startConversion (d : Device) : Device := { d with converting := some d.conversionTime }

/-- What a conversion does when it comes to its end. -/
def Device.convert (d : Device) : Device :=
  { d with scratchpad := d.measured, scratchpad_length := d.measured_length, converting := none }

/-- Milliseconds go by, with the wire held high or not. A sensor that lives on the wire gets nowhere
without it. -/
def Device.elapse (powered : Bool) (millis : ℕ) (d : Device) : Device :=
  match d.converting with
  | none => d
  | some left =>
    if d.parasite = true ∧ powered = false then d
    else if left ≤ millis then d.convert
    else { d with converting := some (left - millis) }

/-- What a sensor waits for or does in the next slot. -/
inductive Phase where
  | idle
  | command (heard : List Bool)
  | offering (i : ℕ)
  | complementing (i : ℕ)
  | awaiting (i : ℕ)
  | matching (i : ℕ)
  | selected (heard : List Bool)
  | sending (bits : List Bool)
deriving DecidableEq, Repr

structure Slave extends Device where
  phase : Phase
deriving DecidableEq

/-- The bits of an address as they go over the wire, the lowest of each byte first. -/
def romBits (rom : List Byte) : List Bool := rom.flatMap (bits 8)

def Device.bit (d : Device) (i : ℕ) : Bool := (romBits d.rom).getD i false

namespace Slave

variable {s : Slave} {p : Phase}

def enter (s : Slave) (p : Phase) : Slave := { s with phase := p }

/-- Whether a sensor lets the wire go up. -/
def out (s : Slave) : Bool :=
  match s.phase with
  | .offering i => s.bit i
  | .complementing i => !s.bit i
  | .sending (b :: _) => b
  | _ => true

def romCommand (heard : List Bool) : Phase :=
  if heard = bits 8 searchRom then .offering 0
  else if heard = bits 8 matchRom then .matching 0
  else if heard = bits 8 skipRom then .selected []
  else .idle

def functionCommand (s : Slave) (heard : List Bool) : Slave :=
  if heard = bits 8 startConvo then { s.toDevice.startConversion with phase := .idle }
  else if heard = bits 8 readScratch then s.enter (.sending (s.scratchpad.flatMap (bits 8)))
  else if heard = bits 8 readPowerSupply then s.enter (.sending [!s.parasite])
  else s.enter .idle

/-- A slot with the level that the wire has taken in it. -/
def hear (s : Slave) (level : Bool) : Slave :=
  match s.phase with
  | .idle => s
  | .command heard =>
    if heard.length < 7 then s.enter (.command (heard ++ [level]))
    else s.enter (romCommand (heard ++ [level]))
  | .offering i => s.enter (.complementing i)
  | .complementing i => s.enter (.awaiting i)
  | .awaiting i =>
    if s.bit i ≠ level then s.enter .idle
    else if i < 63 then s.enter (.offering (i + 1)) else s.enter (.selected [])
  | .matching i =>
    if s.bit i ≠ level then s.enter .idle
    else if i < 63 then s.enter (.matching (i + 1)) else s.enter (.selected [])
  | .selected heard =>
    if heard.length < 7 then s.enter (.selected (heard ++ [level]))
    else s.functionCommand (heard ++ [level])
  | .sending (_ :: rest) => s.enter (.sending rest)
  | .sending [] => s

end Slave

/-- The sensors on the wire. -/
abbrev Bus := List Slave

/-- One slot: the master lets the wire up or not, and all hear the level. -/
def slot (bus : Bus) (v : Bool) : Bus × Bool :=
  let level := v && bus.all Slave.out
  (bus.map (·.hear level), level)

/-- `reset`, and whether a sensor is present. -/
def reset (bus : Bus) : Bus × Bool := (bus.map (·.enter (.command [])), !bus.isEmpty)

/-- `delay`, with the wire held high or not. -/
def delay (powered : Bool) (millis : ℕ) (bus : Bus) : Bus :=
  bus.map fun s => { s with toDevice := s.toDevice.elapse powered millis }

def writeBit (bus : Bus) (v : Bool) : Bus := (slot bus v).1

/-- A read slot is one in which the master lets the wire up. -/
def readBit (bus : Bus) : Bus × Bool := slot bus true

def write (bus : Bus) (v : Byte) : Bus := (bits 8 v).foldl writeBit bus

def read (bus : Bus) : Bus × Byte :=
  (List.range 8).foldl (fun s i =>
    let (bus, bit) := readBit s.1
    (bus, if bit then s.2 ||| (1#8 <<< i) else s.2)) (bus, 0#8)

/-- `select`. -/
def select (bus : Bus) (rom : List Byte) : Bus := rom.foldl write (write bus matchRom)

def skip (bus : Bus) : Bus := write bus skipRom

/-! ### Slots -/

open Slave

variable {bus : Bus} {v : Bool} {heard xs : List Bool} {rom : List Byte}

@[simp] theorem enter_phase (s : Slave) (p : Phase) : (s.enter p).phase = p := rfl
@[simp] theorem enter_toDevice (s : Slave) (p : Phase) : (s.enter p).toDevice = s.toDevice := rfl
@[simp] theorem enter_enter (s : Slave) (p q : Phase) : (s.enter p).enter q = s.enter q := rfl

theorem length_romBits (d : Device) : (romBits d.rom).length = 64 := by
  rw [romBits, length_flatMap_bits, d.rom_length]

/-- A slot in which no sensor pulls the wire down. -/
theorem writeBit_quiet (h : ∀ s ∈ bus, s.out = true) : writeBit bus v = bus.map (·.hear v) := by
  have hall : bus.all Slave.out = true := List.all_eq_true.mpr h
  simp [writeBit, slot, hall]

/-- Bits that are written while the sensors only listen. -/
theorem foldl_writeBit_map {step : Slave → List Bool → Slave} {n : ℕ}
    (hout : ∀ s ∈ bus, ∀ heard, heard.length < n → (step s heard).out = true)
    (hhear : ∀ s ∈ bus, ∀ heard b, heard.length < n → (step s heard).hear b = step s (heard ++ [b]))
    (hn : heard.length + xs.length ≤ n) :
    xs.foldl writeBit (bus.map (step · heard)) = bus.map (step · (heard ++ xs)) := by
  induction xs generalizing heard with
  | nil => rw [List.append_nil]; rfl
  | cons x xs ih =>
    rw [List.length_cons] at hn
    have hquiet : ∀ s ∈ bus.map (step · heard), s.out = true := by
      intro t ht
      obtain ⟨s, hs, rfl⟩ := List.mem_map.mp ht
      exact hout s hs heard (by omega)
    have hstep : (bus.map (step · heard)).map (·.hear x) = bus.map (step · (heard ++ [x])) := by
      rw [List.map_map]
      apply List.map_congr_left
      intro s hs
      exact hhear s hs heard x (by omega)
    rw [List.foldl_cons, writeBit_quiet hquiet, hstep, ih (by simp; omega), List.append_assoc]
    rfl

theorem foldl_write : rom.foldl write bus = (romBits rom).foldl writeBit bus := by
  rw [romBits, List.foldl_flatMap]
  rfl

/-! ### Commands -/

/-- A command to all sensors that wait for one. -/
theorem write_command (v : Byte) :
    write (bus.map (·.enter (.command []))) v = bus.map (·.enter (romCommand (bits 8 v))) := by
  have h := @foldl_writeBit_map bus [] (bits 8 v)
    (fun s heard => if heard.length < 8 then s.enter (.command heard) else s.enter (romCommand heard)) 8
    (by
      intro s _ heard hlen
      simp only [if_pos hlen]
      rfl)
    (by
      intro s _ heard b hlen
      simp only [if_pos hlen, hear, enter_phase, enter_enter, List.length_append, List.length_singleton]
      split <;> [rw [if_pos (by omega)]; rw [if_neg (by omega)]])
    (by simp)
  simpa [write] using h

/-- A function command reaches the selected sensors alone. -/
theorem write_function (p : Slave → Prop) [DecidablePred p] (v : Byte) :
    write (bus.map fun s => if p s then s.enter (.selected []) else s.enter .idle) v =
      bus.map fun s => if p s then s.functionCommand (bits 8 v) else s.enter .idle := by
  have hfunction : ∀ (s : Slave) (q : Phase) heard,
      (s.enter q).functionCommand heard = s.functionCommand heard := fun _ _ _ => rfl
  have h := @foldl_writeBit_map bus [] (bits 8 v)
    (fun s heard => if p s then (if heard.length < 8 then s.enter (.selected heard)
      else s.functionCommand heard) else s.enter .idle) 8
    (by
      intro s _ heard hlen
      simp only [if_pos hlen]
      split <;> rfl)
    (by
      intro s _ heard b hlen
      simp only [if_pos hlen, List.length_append, List.length_singleton]
      split
      · simp only [hear, enter_phase, enter_enter, hfunction]
        split <;> [rw [if_pos (by omega)]; rw [if_neg (by omega)]]
      · rfl)
    (by simp)
  simpa [write] using h

/-- `reset` and `select` leave the sensor with the address, and make the others wait. -/
theorem select_reset (hrom : rom.length = 8) : select (reset bus).1 rom =
    bus.map fun s => if s.rom = rom then s.enter (.selected []) else s.enter .idle := by
  have hlength : (romBits rom).length = 64 := by rw [romBits, length_flatMap_bits, hrom]
  have hmatch : romCommand (bits 8 matchRom) = .matching 0 := by decide
  have h := @foldl_writeBit_map bus [] (romBits rom)
    (fun s heard => if (romBits s.rom).take heard.length = heard then
      (if heard.length < 64 then s.enter (.matching heard.length) else s.enter (.selected []))
      else s.enter .idle) 64
    (by
      intro s _ heard hlen
      simp only [if_pos hlen]
      split <;> rfl)
    (by
      intro s _ heard b hlen
      have hbit : (romBits s.rom)[heard.length]? = some (s.bit heard.length) := by
        rw [Device.bit, List.getD_eq_getElem _ _ (by rw [length_romBits]; exact hlen),
          List.getElem?_eq_getElem]
      have htake : (romBits s.rom).take (heard.length + 1) =
          (romBits s.rom).take heard.length ++ [s.bit heard.length] := by
        rw [List.take_add_one, hbit]
        rfl
      simp only [if_pos hlen, List.length_append, List.length_singleton, htake]
      by_cases hbegins : (romBits s.rom).take heard.length = heard
      · simp only [hbegins, if_true, List.append_cancel_left_eq, List.cons.injEq, and_true, hear,
          enter_phase, enter_enter]
        by_cases hb : s.bit heard.length = b
        · have hb' : (s.enter (.matching heard.length)).bit heard.length = b := hb
          simp only [hb, hb', ne_eq, not_true, if_false, if_true]
          split <;> [rw [if_pos (by omega)]; rw [if_neg (by omega)]]
        · have hb' : (s.enter (.matching heard.length)).bit heard.length ≠ b := hb
          rw [if_pos hb', if_neg hb]
      · have hlonger : (romBits s.rom).take heard.length ++ [s.bit heard.length] ≠ heard ++ [b] := by
          intro hcontra
          exact hbegins (List.append_inj' hcontra rfl).1
        rw [if_neg hbegins, if_neg hlonger]
        rfl)
    (by rw [hlength]; simp)
  rw [select, foldl_write, reset, write_command, hmatch]
  simp only [List.length_nil, List.take_zero, if_true, Nat.zero_lt_succ, List.nil_append, hlength,
    lt_irrefl, if_false] at h
  rw [h]
  apply List.map_congr_left
  intro s _
  have hsame : (romBits s.rom).take 64 = romBits rom ↔ s.rom = rom := by
    rw [List.take_of_length_le (length_romBits s.toDevice).le]
    exact ⟨fun hbits => flatMap_bits_injective (Nat.succ_pos 7) hbits, fun hrom => by rw [hrom]⟩
  simp only [hsame]

/-! ### Answers -/

/-- Some sensors send the same bits, the others are silent. -/
def speaking (bus : Bus) (p : Slave → Prop) [DecidablePred p] (xs : List Bool) : Bus :=
  bus.map fun s => if p s then s.enter (.sending xs) else s.enter .idle

theorem readBit_speaking {p : Slave → Prop} [DecidablePred p] {b : Bool} (h : ∃ s ∈ bus, p s) :
    readBit (speaking bus p (b :: xs)) = (speaking bus p xs, b) := by
  have hlevel : (speaking bus p (b :: xs)).all Slave.out = b := by
    obtain ⟨s, hs, hp⟩ := h
    cases b with
    | true =>
      rw [List.all_eq_true]
      intro t ht
      obtain ⟨r, -, rfl⟩ := List.mem_map.mp ht
      split <;> rfl
    | false =>
      rw [List.all_eq_false]
      refine ⟨s.enter (.sending (false :: xs)), List.mem_map.mpr ⟨s, hs, if_pos hp⟩, ?_⟩
      exact Bool.false_ne_true
  simp only [readBit, slot, hlevel, Bool.true_and, Prod.mk.injEq, and_true]
  rw [speaking, speaking, List.map_map]
  apply List.map_congr_left
  intro r _
  dsimp only [Function.comp_apply]
  split <;> rfl

theorem read_speaking {p : Slave → Prop} [DecidablePred p] {x : Byte} (h : ∃ s ∈ bus, p s) :
    read (speaking bus p (bits 8 x ++ xs)) = (speaking bus p xs, x) := by
  have hrun : ∀ k ≤ 8, ∃ r : Byte, (∀ j < 8, r.getLsbD j = (decide (j < k) && x.getLsbD j)) ∧
      (List.range k).foldl (fun s i =>
        let (bus, bit) := readBit s.1
        (bus, if bit then s.2 ||| (1#8 <<< i) else s.2)) (speaking bus p (bits 8 x ++ xs), 0#8) =
      (speaking bus p ((bits 8 x).drop k ++ xs), r) := by
    intro k hk
    induction k with
    | zero => exact ⟨0#8, by simp, rfl⟩
    | succ k ih =>
      obtain ⟨r, hr, hfold⟩ := ih (by omega)
      have hdrop : (bits 8 x).drop k = x.getLsbD k :: (bits 8 x).drop (k + 1) := by
        rw [List.drop_eq_getElem_cons (by simp; omega)]
        simp [bits]
      refine ⟨if x.getLsbD k then r ||| (1#8 <<< k) else r, ?_, ?_⟩
      · intro j hj
        have hone : (1#8 <<< k).getLsbD j = decide (j = k) := by
          rw [BitVec.getLsbD_shiftLeft, BitVec.getLsbD_one]
          by_cases hjk : j = k
          · simp [hjk]
            omega
          · simp [hjk]
            omega
        rcases Nat.lt_trichotomy j k with hlt | rfl | hgt
        · have hne : j ≠ k := by omega
          split <;> simp [hr j hj, hone, hlt, hne, Nat.lt_succ_of_lt hlt]
        · split <;> simp_all
        · have hne : j ≠ k := by omega
          have hno : ¬ j < k + 1 := by omega
          have hno' : ¬ j < k := by omega
          split <;> simp [hr j hj, hone, hne, hno, hno']
      · rw [List.range_succ, List.foldl_append, hfold, hdrop, List.cons_append]
        simp only [List.foldl_cons, List.foldl_nil, readBit_speaking h]
  obtain ⟨r, hr, hfold⟩ := hrun 8 le_rfl
  have hx : r = x := by
    apply BitVec.eq_of_getLsbD_eq
    intro j hj
    rw [hr j hj, decide_eq_true hj, Bool.true_and]
  have hnil : (bits 8 x).drop 8 = [] := List.drop_of_length_le (by simp)
  rw [read, hfold, hx, hnil, List.nil_append]

end Dallas
