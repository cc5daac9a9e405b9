import HomeConfig.Library.BitTrie
import HomeConfig.Dallas.Bus

/-! The search for the addresses on the wire: every address is found once, in order. -/
namespace Dallas

open Arduino ShiftRegister Slave

/-- The fields of the library object. -/
structure OneWire where
  romNo : List Byte
  lastDiscrepancy : ℕ
  lastFamilyDiscrepancy : ℕ
  lastDeviceFlag : Bool
deriving DecidableEq, Repr

/-- `reset_search`, also a part of the constructor. -/
def resetSearch : OneWire := ⟨List.replicate 8 0#8, 0, 0, false⟩

/-- The variables of the loop of `search`. -/
structure Scan where
  idBitNumber : ℕ
  lastZero : ℕ
  romByteNumber : ℕ
  romByteMask : Byte
  romNo : List Byte
  lastFamilyDiscrepancy : ℕ
  bus : Bus
deriving DecidableEq

namespace Scan

/-- `search_direction`, from a bit of the addresses and its complement. -/
def direction (s : Scan) (lastDiscrepancy : ℕ) (idBit cmpIdBit : Bool) : Bool :=
  if idBit ≠ cmpIdBit then idBit
  else if s.idBitNumber < lastDiscrepancy then
    decide (s.romNo.getD s.romByteNumber 0#8 &&& s.romByteMask ≠ 0#8)
  else decide (s.idBitNumber = lastDiscrepancy)

/-- A zero was picked where both ways were open. -/
def recordZero (s : Scan) : Scan :=
  { s with
    lastZero := s.idBitNumber
    lastFamilyDiscrepancy := if s.idBitNumber < 9 then s.idBitNumber else s.lastFamilyDiscrepancy }

/-- The direction goes into the address and onto the wire, and the counters move on. -/
def put (s : Scan) (searchDirection : Bool) : Scan :=
  let romByte := s.romNo.getD s.romByteNumber 0#8
  let s := { s with
    romNo := s.romNo.set s.romByteNumber
      (if searchDirection then romByte ||| s.romByteMask else romByte &&& ~~~s.romByteMask)
    bus := writeBit s.bus searchDirection
    idBitNumber := s.idBitNumber + 1
    romByteMask := s.romByteMask <<< 1 }
  if s.romByteMask = 0#8 then
    { s with romByteNumber := s.romByteNumber + 1, romByteMask := 1#8 }
  else s

end Scan

/-- The loop of `search`, whose body runs at most 64 times. -/
def searchLoop (lastDiscrepancy : ℕ) : ℕ → Scan → Scan
  | 0, s => s
  | fuel + 1, s =>
    let (bus, idBit) := readBit s.bus
    let (bus, cmpIdBit) := readBit bus
    let s := { s with bus }
    if idBit = true ∧ cmpIdBit = true then s
    else
      let searchDirection := s.direction lastDiscrepancy idBit cmpIdBit
      let s := if idBit = cmpIdBit ∧ searchDirection = false then s.recordZero else s
      let s := s.put searchDirection
      if s.romByteNumber < 8 then searchLoop lastDiscrepancy fuel s else s

/-- What the last part of `search` does when nothing has been found. -/
def OneWire.notFound (w : OneWire) : OneWire :=
  { w with lastDiscrepancy := 0, lastDeviceFlag := false, lastFamilyDiscrepancy := 0 }

/-- `search`: the next address, or nothing where it returns false. -/
def search (w : OneWire) (bus : Bus) : OneWire × Bus × Option (List Byte) :=
  if w.lastDeviceFlag then (w.notFound, bus, none)
  else
    match reset bus with
    | (bus, false) => (w.notFound, bus, none)
    | (bus, true) =>
      let s := searchLoop w.lastDiscrepancy 64
        ⟨1, 0, 0, 1#8, w.romNo, w.lastFamilyDiscrepancy, write bus searchRom⟩
      let w := { w with romNo := s.romNo, lastFamilyDiscrepancy := s.lastFamilyDiscrepancy }
      if s.idBitNumber < 65 then (w.notFound, s.bus, none)
      else
        let w := { w with
          lastDiscrepancy := s.lastZero
          lastDeviceFlag := if s.lastZero = 0 then true else w.lastDeviceFlag }
        if w.romNo.getD 0 0#8 = 0#8 then (w.notFound, s.bus, none)
        else (w, s.bus, some w.romNo)

/-! ### Bits of the address -/

variable {bus : Bus} {rom : List Byte} {path old : List Bool} {b : Bool} {i k d : ℕ} {w : OneWire}

theorem getElem?_romBits : (romBits rom)[i]? = (rom[i / 8]?).map (·.getLsbD (i % 8)) := by
  induction rom generalizing i with
  | nil => simp [romBits]
  | cons x rom ih =>
    have hcons : romBits (x :: rom) = bits 8 x ++ romBits rom := List.flatMap_cons
    rw [hcons]
    rcases Nat.lt_or_ge i 8 with hi | hi
    · have h0 : i / 8 = 0 := by omega
      have h1 : i % 8 = i := by omega
      rw [List.getElem?_append_left (by simpa using hi), h0, h1]
      simp [bits, hi]
    · have h0 : i / 8 = (i - 8) / 8 + 1 := by omega
      have h1 : (i - 8) % 8 = i % 8 := by omega
      rw [List.getElem?_append_right (by simpa using hi), length_bits, ih, h0, h1]
      rfl

theorem getLsbD_mask {j m : ℕ} (hm : m < 8) : (1#8 <<< m).getLsbD j = decide (j = m) := by
  rw [BitVec.getLsbD_shiftLeft, BitVec.getLsbD_one]
  by_cases hjm : j = m
  · simp [hjm]
    omega
  · simp [hjm]
    omega

/-- The mask picks a bit of the address out of its byte. -/
theorem and_mask (x : Byte) {m : ℕ} (hm : m < 8) : x &&& (1#8 <<< m) ≠ 0#8 ↔ x.getLsbD m = true := by
  constructor
  · intro h
    by_contra hbit
    apply h
    apply BitVec.eq_of_getLsbD_eq
    intro j hj
    rw [BitVec.getLsbD_and, getLsbD_mask hm]
    by_cases hjm : j = m
    · simp_all
    · simp [hjm]
  · intro h hzero
    have hbit := congrArg (·.getLsbD m) hzero
    simp [getLsbD_mask hm, h] at hbit

theorem romBits_set (hk : k / 8 < rom.length) : romBits (rom.set (k / 8)
      (if b then rom.getD (k / 8) 0#8 ||| (1#8 <<< (k % 8))
        else rom.getD (k / 8) 0#8 &&& ~~~(1#8 <<< (k % 8)))) = (romBits rom).set k b := by
  have hm : k % 8 < 8 := Nat.mod_lt _ (by decide)
  apply List.ext_getElem?
  intro i
  have hi : i % 8 < 8 := Nat.mod_lt _ (by decide)
  rw [getElem?_romBits, List.getElem?_set, List.getElem?_set, getElem?_romBits]
  by_cases hbyte : k / 8 = i / 8
  · have hbit : (if b = true then rom.getD (k / 8) 0#8 ||| (1#8 <<< (k % 8))
          else rom.getD (k / 8) 0#8 &&& ~~~(1#8 <<< (k % 8))).getLsbD (i % 8) =
        if i % 8 = k % 8 then b else (rom.getD (k / 8) 0#8).getLsbD (i % 8) := by
      cases b
      · rw [if_neg Bool.false_ne_true, BitVec.getLsbD_and, BitVec.getLsbD_not, getLsbD_mask hm]
        split <;> simp [*]
      · rw [if_pos rfl, BitVec.getLsbD_or, getLsbD_mask hm]
        split <;> simp [*]
    rw [if_pos hbyte, if_pos hk, Option.map_some, hbit, ← hbyte, List.getElem?_eq_getElem hk,
      List.getD_eq_getElem _ _ hk, Option.map_some]
    by_cases hsame : k = i
    · have hlen : i < (romBits rom).length := by
        rw [romBits, length_flatMap_bits]
        omega
      subst hsame
      rw [if_pos rfl, if_pos rfl, if_pos hlen]
    · rw [if_neg hsame, if_neg (by omega)]
  · rw [if_neg hbyte, if_neg (by rintro rfl; exact hbyte rfl)]

/-! ### The devices that are still searched -/

/-- What is left of the addresses of those that take part. -/
def ways (bus : Bus) (path : List Bool) : List (List Bool) :=
  path.foldl (fun S b => BitTrie.behind b S) (bus.map fun s => romBits s.rom)

theorem ways_concat : ways bus (path ++ [b]) = BitTrie.behind b (ways bus path) := by
  rw [ways, List.foldl_append]
  rfl

theorem mem_ways {p : List Bool} : p ∈ ways bus path ↔ ∃ s ∈ bus, romBits s.rom = path ++ p := by
  have hall : ∀ S : List (List Bool),
      p ∈ path.foldl (fun S b => BitTrie.behind b S) S ↔ path ++ p ∈ S := by
    induction path with
    | nil => intro S; rfl
    | cons b path ih =>
      intro S
      rw [List.foldl_cons, ih, BitTrie.mem_behind]
      rfl
  rw [ways, hall, List.mem_map]

theorem length_of_mem_ways {p : List Bool} (hp : p ∈ ways bus path) : p.length = 64 - path.length := by
  obtain ⟨s, -, hs⟩ := mem_ways.mp hp
  have hlen := congrArg List.length hs
  rw [length_romBits, List.length_append] at hlen
  omega

theorem behind_ways_eq_nil (hk : path.length < 64) : BitTrie.behind b (ways bus path) = [] ↔
    ∀ s ∈ bus, path <+: romBits s.rom → s.bit path.length = !b := by
  have hbit : ∀ s : Slave, path <+: romBits s.rom →
      romBits s.rom = path ++ (s.bit path.length :: (romBits s.rom).drop (path.length + 1)) := by
    intro s hs
    obtain ⟨p, hp⟩ := hs
    have hlen : path.length < (romBits s.rom).length := by
      rw [length_romBits]
      exact hk
    have hdrop := List.drop_eq_getElem_cons hlen
    rw [Device.bit, List.getD_eq_getElem _ _ hlen, ← hdrop]
    rw [← hp, List.drop_left]
  rw [List.eq_nil_iff_forall_not_mem]
  constructor
  · intro h s hs hpath
    by_contra hb
    have hb' : s.bit path.length = b := by
      cases hv : s.bit path.length <;> cases b <;> simp_all
    apply h ((romBits s.rom).drop (path.length + 1))
    rw [BitTrie.mem_behind, mem_ways]
    refine ⟨s, hs, ?_⟩
    rw [← hb']
    exact hbit s hpath
  · intro h p hp
    rw [BitTrie.mem_behind, mem_ways] at hp
    obtain ⟨s, hs, hrom⟩ := hp
    have hpath : path <+: romBits s.rom := ⟨b :: p, hrom.symm⟩
    have hno := h s hs hpath
    have hyes := hbit s hpath
    rw [hrom, List.append_cancel_left_eq, List.cons.injEq] at hyes
    rw [← hyes.1] at hno
    cases b <;> cases hno

/-- The sensors that take part are in one phase, the others wait. -/
def inPhase (bus : Bus) (path : List Bool) (p : Phase) : Bus :=
  bus.map fun s => if path <+: romBits s.rom then s.enter p else s.enter .idle

theorem slot_inPhase {p q : Phase} {v : Bool} (hhear : ∀ s : Slave, ∀ level, (s.enter p).hear level = s.enter q) :
    slot (inPhase bus path p) v = (inPhase bus path q,
      v && decide (∀ s ∈ bus, path <+: romBits s.rom → (s.enter p).out = true)) := by
  simp only [slot, inPhase, List.map_map, Prod.mk.injEq]
  constructor
  · apply List.map_congr_left
    intro s _
    dsimp only [Function.comp_apply]
    split
    · exact hhear s _
    · rfl
  · congr 1
    rw [Bool.eq_iff_iff, List.all_eq_true, decide_eq_true_iff]
    simp only [List.mem_map, forall_exists_index, and_imp, forall_apply_eq_imp_iff₂]
    refine forall₂_congr fun s _ => ?_
    split <;> simp_all [out]

/-- What the searched sensors answer tells which ways are open. -/
theorem readBit_offering (hk : path.length < 64) :
    readBit (inPhase bus path (.offering path.length)) = (inPhase bus path (.complementing path.length),
      decide (BitTrie.behind false (ways bus path) = [])) := by
  rw [readBit, slot_inPhase (q := .complementing path.length) (fun _ _ => rfl), Bool.true_and]
  simp only [behind_ways_eq_nil hk]
  rfl

theorem readBit_complementing (hk : path.length < 64) :
    readBit (inPhase bus path (.complementing path.length)) = (inPhase bus path (.awaiting path.length),
      decide (BitTrie.behind true (ways bus path) = [])) := by
  have hout : ∀ s : Slave, (s.enter (.complementing path.length)).out = !s.bit path.length := fun _ => rfl
  rw [readBit, slot_inPhase (q := .awaiting path.length) (fun _ _ => rfl), Bool.true_and]
  simp only [behind_ways_eq_nil hk, hout, Bool.not_eq_true', Bool.not_true]

/-- The phase behind the bits of the path. -/
def behindPath (path : List Bool) : Phase :=
  if path.length < 64 then .offering path.length else .selected []

/-- The bit that is written takes the other way out of the search. -/
theorem writeBit_awaiting (hk : path.length < 64) (v : Bool) :
    writeBit (inPhase bus path (.awaiting path.length)) v =
      inPhase bus (path ++ [v]) (behindPath (path ++ [v])) := by
  have hquiet : ∀ s ∈ inPhase bus path (.awaiting path.length), s.out = true := by
    intro t ht
    obtain ⟨s, -, rfl⟩ := List.mem_map.mp ht
    split <;> rfl
  rw [writeBit_quiet hquiet, inPhase, inPhase, List.map_map]
  apply List.map_congr_left
  intro s _
  dsimp only [Function.comp_apply]
  have hlen : path.length < (romBits s.rom).length := by
    rw [length_romBits]
    exact hk
  have hbit : (romBits s.rom)[path.length]? = some (s.bit path.length) := by
    rw [Device.bit, List.getD_eq_getElem _ _ hlen, List.getElem?_eq_getElem]
  have hbegins : path ++ [v] <+: romBits s.rom ↔ path <+: romBits s.rom ∧ s.bit path.length = v := by
    rw [List.prefix_iff_eq_take, List.prefix_iff_eq_take, List.length_append, List.length_singleton,
      List.take_add_one, hbit, Option.toList_some]
    constructor
    · intro h
      obtain ⟨hpath, hlast⟩ := List.append_inj' h rfl
      exact ⟨hpath, (List.singleton_inj.mp hlast).symm⟩
    · rintro ⟨hpath, hlast⟩
      rw [← hpath, hlast]
  by_cases hpath : path <+: romBits s.rom
  · have hsame : (s.enter (.awaiting path.length)).bit path.length = s.bit path.length := rfl
    rw [if_pos hpath]
    by_cases hv : s.bit path.length = v
    · rw [if_pos (hbegins.mpr ⟨hpath, hv⟩), behindPath, List.length_append, List.length_singleton]
      simp only [hear, enter_phase, hsame, hv, ne_eq, not_true, if_false, enter_enter]
      split <;> [rw [if_pos (by omega)]; rw [if_neg (by omega)]]
    · rw [if_neg (fun h => hv (hbegins.mp h).2)]
      simp only [hear, enter_phase, hsame, hv, ne_eq, not_false_eq_true, if_true, enter_enter]
  · rw [if_neg hpath, if_neg (fun h => hpath (hbegins.mp h).1)]
    rfl

/-! ### The loop -/

/-- The loop at the bit behind the path. -/
structure Scanning (bus : Bus) (old path : List Bool) (p : Phase) (s : Scan) : Prop where
  number : s.idBitNumber = path.length + 1
  byte : s.romByteNumber = path.length / 8
  mask : s.romByteMask = 1#8 <<< (path.length % 8)
  length_eq : s.romNo.length = 8
  romBits_eq : romBits s.romNo = path ++ old.drop path.length
  bus_eq : s.bus = inPhase bus path p

variable {s : Scan} {p : Phase} {fuel n : ℕ} {v : Bool}

theorem mask_shift {m : ℕ} (hm : m < 8) :
    1#8 <<< m <<< (1 : ℕ) = if m = 7 then 0#8 else 1#8 <<< (m + 1) := by
  have hall : ∀ m : ℕ, m < 8 → 1#8 <<< m <<< (1 : ℕ) = if m = 7 then 0#8 else 1#8 <<< (m + 1) := by decide
  exact hall m hm

theorem mask_ne_zero {m : ℕ} (hm : m < 8) : 1#8 <<< m ≠ 0#8 := by
  have hall : ∀ m : ℕ, m < 8 → 1#8 <<< m ≠ 0#8 := by decide
  exact hall m hm

theorem Scanning.recordZero (h : Scanning bus old path p s) : Scanning bus old path p s.recordZero :=
  ⟨h.number, h.byte, h.mask, h.length_eq, h.romBits_eq, h.bus_eq⟩

theorem Scanning.put (h : Scanning bus old path (.awaiting path.length) s) (hk : path.length < 64)
    (hold : old.length = 64) (v : Bool) :
    Scanning bus old (path ++ [v]) (behindPath (path ++ [v])) (s.put v) ∧
      (s.put v).lastZero = s.lastZero := by
  have hm : path.length % 8 < 8 := Nat.mod_lt _ (by decide)
  have hbyte : path.length / 8 < s.romNo.length := by
    rw [h.length_eq]
    omega
  have hbus : writeBit s.bus v = inPhase bus (path ++ [v]) (behindPath (path ++ [v])) := by
    rw [h.bus_eq, writeBit_awaiting hk]
  have hset : (path ++ old.drop path.length).set path.length v =
      path ++ [v] ++ old.drop (path.length + 1) := by
    rw [List.set_append_right _ _ le_rfl, Nat.sub_self, List.drop_eq_getElem_cons (by omega),
      List.append_assoc]
    rfl
  have hrom : romBits (s.romNo.set s.romByteNumber (if v = true then
        s.romNo.getD s.romByteNumber 0#8 ||| s.romByteMask
      else s.romNo.getD s.romByteNumber 0#8 &&& ~~~s.romByteMask)) =
      path ++ [v] ++ old.drop (path.length + 1) := by
    rw [h.byte, h.mask, romBits_set hbyte, h.romBits_eq, hset]
  have hlength : (path ++ [v]).length = path.length + 1 := by simp
  have hshift : s.romByteMask <<< 1 = if path.length % 8 = 7 then 0#8 else 1#8 <<< (path.length % 8 + 1) := by
    rw [h.mask, mask_shift hm]
  by_cases hend : path.length % 8 = 7
  · rw [if_pos hend] at hshift
    simp only [Scan.put, hshift, if_true]
    refine ⟨⟨?_, ?_, ?_, ?_, ?_, hbus⟩, trivial⟩
    · rw [hlength, ← h.number]
    · rw [hlength, h.byte]
      dsimp only
      omega
    · rw [hlength, show (path.length + 1) % 8 = 0 by omega]
      rfl
    · simpa using h.length_eq
    · rw [hlength]
      exact hrom
  · have hne : s.romByteMask <<< 1 ≠ 0#8 := by
      rw [hshift, if_neg hend]
      exact mask_ne_zero (by omega)
    simp only [Scan.put, if_neg hne]
    refine ⟨⟨?_, ?_, ?_, ?_, ?_, hbus⟩, trivial⟩
    · rw [hlength, ← h.number]
    · rw [hlength, h.byte]
      omega
    · rw [hlength, hshift, if_neg hend, show (path.length + 1) % 8 = path.length % 8 + 1 by omega]
    · simpa using h.length_eq
    · rw [hlength]
      exact hrom

/-- The way that the body of the loop takes is the one out of the fork. -/
theorem Scanning.direction_eq (h : Scanning bus old path p s) (hk : path.length < 64)
    (hS : ways bus path ≠ []) :
    s.direction d (decide (BitTrie.behind false (ways bus path) = []))
      (decide (BitTrie.behind true (ways bus path) = [])) =
    BitTrie.turn (ways bus path) (old.drop path.length) (d - path.length) := by
  have hlength : ∀ p ∈ ways bus path, p.length = (63 - path.length) + 1 := by
    intro p hp
    have hlen := length_of_mem_ways hp
    omega
  have hnot : BitTrie.behind false (ways bus path) = [] → BitTrie.behind true (ways bus path) ≠ [] :=
    fun hfalse => BitTrie.behind_ne_nil hlength hS hfalse
  have hprevious : decide (s.romNo.getD s.romByteNumber 0#8 &&& s.romByteMask ≠ 0#8) =
      (old.drop path.length).headD false := by
    have hbit : (romBits s.romNo)[path.length]? = (old.drop path.length).head? := by
      rw [h.romBits_eq, List.getElem?_append_right le_rfl, Nat.sub_self, List.head?_eq_getElem?]
    have hbyte : path.length / 8 < s.romNo.length := by
      rw [h.length_eq]
      omega
    rw [getElem?_romBits, List.getElem?_eq_getElem hbyte, Option.map_some] at hbit
    rw [h.byte, h.mask, List.headD_eq_head?_getD, ← hbit, Option.getD_some, List.getD_eq_getElem _ _ hbyte]
    rw [Bool.eq_iff_iff, decide_eq_true_iff, and_mask _ (Nat.mod_lt _ (by decide))]
  rw [Scan.direction, hprevious, h.number, BitTrie.turn]
  by_cases htrue : BitTrie.behind true (ways bus path) = []
  · have hfalse : BitTrie.behind false (ways bus path) ≠ [] := fun hfalse => hnot hfalse htrue
    simp [htrue, hfalse]
  · by_cases hfalse : BitTrie.behind false (ways bus path) = []
    · simp [htrue, hfalse]
    · have hbefore : path.length + 1 < d ↔ 1 < d - path.length := by omega
      have hat : path.length + 1 = d ↔ d - path.length = 1 := by omega
      simp only [htrue, hfalse, hbefore, hat, decide_false, ne_eq, not_true, if_false]

/-- One pass of the loop. -/
theorem searchLoop_step (h : Scanning bus old path (behindPath path) s) (hk : path.length < 64)
    (hold : old.length = 64) (hS : ways bus path ≠ [])
    (hv : v = BitTrie.turn (ways bus path) (old.drop path.length) (d - path.length)) :
    ∃ s', Scanning bus old (path ++ [v]) (behindPath (path ++ [v])) s' ∧
      s'.lastZero = (if v = false ∧ BitTrie.behind true (ways bus path) ≠ [] then path.length + 1
        else s.lastZero) ∧
      searchLoop d (fuel + 1) s = if path.length + 1 < 64 then searchLoop d fuel s' else s' := by
  have hlength : ∀ p ∈ ways bus path, p.length = (63 - path.length) + 1 := by
    intro p hp
    have hlen := length_of_mem_ways hp
    omega
  have hfound : ¬ (BitTrie.behind false (ways bus path) = [] ∧ BitTrie.behind true (ways bus path) = []) :=
    fun ⟨hfalse, htrue⟩ => BitTrie.behind_ne_nil hlength hS hfalse htrue
  have hphase : behindPath path = .offering path.length := if_pos hk
  obtain ⟨s₁, hs₁⟩ : ∃ s₁, s₁ = { s with bus := inPhase bus path (.awaiting path.length) } := ⟨_, rfl⟩
  have h₁ : Scanning bus old path (.awaiting path.length) s₁ := by
    rw [hs₁]
    exact ⟨h.number, h.byte, h.mask, h.length_eq, h.romBits_eq, rfl⟩
  have hdirection := h₁.direction_eq (d := d) hk hS
  rw [← hv] at hdirection
  have hfork : decide (BitTrie.behind false (ways bus path) = []) =
        decide (BitTrie.behind true (ways bus path) = []) ∧ v = false ↔
      v = false ∧ BitTrie.behind true (ways bus path) ≠ [] := by
    rw [hv, BitTrie.turn]
    by_cases htrue : BitTrie.behind true (ways bus path) = [] <;>
      by_cases hfalse : BitTrie.behind false (ways bus path) = [] <;> simp_all
  obtain ⟨s₂, hs₂⟩ : ∃ s₂, s₂ = if v = false ∧ BitTrie.behind true (ways bus path) ≠ [] then
      s₁.recordZero else s₁ := ⟨_, rfl⟩
  have h₂ : Scanning bus old path (.awaiting path.length) s₂ := by
    rw [hs₂]
    split
    · exact h₁.recordZero
    · exact h₁
  obtain ⟨hnext, hzero⟩ := h₂.put hk hold v
  refine ⟨s₂.put v, hnext, ?_, ?_⟩
  · rw [hzero, hs₂]
    split
    · exact h₁.number
    · rw [hs₁]
  · have hmore : (s₂.put v).romByteNumber < 8 ↔ path.length + 1 < 64 := by
      rw [hnext.byte, List.length_append, List.length_singleton]
      omega
    rw [searchLoop, h.bus_eq, hphase, readBit_offering hk]
    dsimp only
    rw [readBit_complementing hk]
    dsimp only
    rw [← hs₁, hdirection, if_neg (by simpa using hfound), if_congr hfork rfl rfl, ← hs₂]
    simp only [hmore]

/-- The loop walks to the next address, and notes the last place that it left open. -/
theorem searchLoop_walk {q : List Bool} (h : Scanning bus old path (behindPath path) s)
    (hk : path.length + n = 64) (hold : old.length = 64) (hS : ways bus path ≠ [])
    (hq : q = BitTrie.walk n (ways bus path) (old.drop path.length) (d - path.length)) :
    Scanning bus old (path ++ q) (.selected []) (searchLoop d n s) ∧
      (searchLoop d n s).lastZero =
        if BitTrie.lastOpen n (ways bus path) q ≠ 0 then
          BitTrie.lastOpen n (ways bus path) q + path.length
        else s.lastZero := by
  induction n generalizing path q s with
  | zero =>
    rw [behindPath, if_neg (by omega)] at h
    rw [hq, BitTrie.walk, List.append_nil]
    exact ⟨h, rfl⟩
  | succ n ih =>
    have hlength : ∀ p ∈ ways bus path, p.length = n + 1 := by
      intro p hp
      have hlen := length_of_mem_ways hp
      omega
    obtain ⟨v, hv⟩ : ∃ v, v = BitTrie.turn (ways bus path) (old.drop path.length) (d - path.length) :=
      ⟨_, rfl⟩
    obtain ⟨s', hnext, hzero, hstep⟩ := @searchLoop_step bus path old d s n v h (by omega) hold hS hv
    have hloop : searchLoop d (n + 1) s = searchLoop d n s' := by
      rw [hstep]
      split
      · rfl
      · obtain rfl : n = 0 := by omega
        rfl
    have hlen : (path ++ [v]).length = path.length + 1 := by simp
    have hS' : ways bus (path ++ [v]) ≠ [] := by
      rw [ways_concat, hv]
      exact BitTrie.behind_turn_ne_nil hlength hS
    obtain ⟨hend, hlast⟩ := ih hnext (by omega) hS' rfl
    rw [ways_concat, hlen] at hend hlast
    have hcons : q = v :: BitTrie.walk n (BitTrie.behind v (ways bus path))
        (old.drop (path.length + 1)) (d - (path.length + 1)) := by
      rw [hq, BitTrie.walk, ← hv, List.tail_drop, Nat.sub_sub]
    rw [hloop, hcons, BitTrie.lastOpen]
    refine ⟨?_, ?_⟩
    · rw [List.append_assoc] at hend
      exact hend
    · rw [hlast, hzero]
      split
      · rw [if_pos (by omega)]
        omega
      · split <;> simp [Nat.add_comm]

/-! ### Calls -/

/-- The addresses on the wire. -/
def addresses (bus : Bus) : List (List Bool) := bus.map fun s => romBits s.rom

/-- The devices in the order of their addresses, those with an early zero bit first. -/
def inOrder (bus : Bus) : List Device :=
  (BitTrie.inOrder 64 (addresses bus)).filterMap fun a =>
    (bus.find? fun s => romBits s.rom = a).map (·.toDevice)

/-- The memory of the search. -/
def OneWire.memory (w : OneWire) : BitTrie.Memory :=
  ⟨romBits w.romNo, w.lastDiscrepancy, w.lastDeviceFlag⟩

/-- Only the phases differ. -/
def SameDevices (bus bus' : Bus) : Prop := bus'.map (·.toDevice) = bus.map (·.toDevice)

theorem length_of_mem_addresses {a : List Bool} (ha : a ∈ addresses bus) : a.length = 64 := by
  obtain ⟨s, -, rfl⟩ := List.mem_map.mp ha
  exact length_romBits s.toDevice

theorem SameDevices.addresses_eq {bus' : Bus} (h : SameDevices bus bus') :
    addresses bus' = addresses bus := by
  have hmap : ∀ bus : Bus, addresses bus = (bus.map (·.toDevice)).map fun d => romBits d.rom := by
    intro bus
    rw [List.map_map]
    rfl
  rw [hmap, hmap, h]

theorem SameDevices.inOrder_eq {bus' : Bus} (h : SameDevices bus bus') : inOrder bus' = inOrder bus := by
  have hfind : ∀ (bus : Bus) (a : List Bool),
      (bus.find? fun s => romBits s.rom = a).map (·.toDevice) =
        (bus.map (·.toDevice)).find? fun d => romBits d.rom = a := by
    intro bus a
    rw [List.find?_map]
    rfl
  simp only [inOrder, h.addresses_eq, hfind]
  rw [h]

theorem SameDevices.trans {bus' bus'' : Bus} (h : SameDevices bus bus') (h' : SameDevices bus' bus'') :
    SameDevices bus bus'' :=
  Eq.trans h' h

theorem sameDevices_inPhase : SameDevices bus (inPhase bus path p) := by
  rw [SameDevices, inPhase, List.map_map]
  apply List.map_congr_left
  intro s _
  dsimp only [Function.comp_apply]
  split <;> rfl

theorem sameDevices_reset : SameDevices bus (reset bus).1 := by
  rw [SameDevices, reset, List.map_map]
  rfl

/-- The addresses of the devices in order are the addresses in order. -/
theorem map_inOrder : (inOrder bus).map (fun d => romBits d.rom) = BitTrie.inOrder 64 (addresses bus) := by
  have hall : ∀ l : List (List Bool), (∀ a ∈ l, a ∈ addresses bus) →
      (l.filterMap fun a => (bus.find? fun s => romBits s.rom = a).map (·.toDevice)).map
        (fun d => romBits d.rom) = l := by
    intro l hl
    induction l with
    | nil => rfl
    | cons a l ih =>
      obtain ⟨s, hs, ha⟩ := List.mem_map.mp (hl a List.mem_cons_self)
      have hsome : (bus.find? fun s => decide (romBits s.rom = a)).isSome :=
        List.find?_isSome.mpr ⟨s, hs, decide_eq_true ha⟩
      obtain ⟨t, ht⟩ := Option.isSome_iff_exists.mp hsome
      have hta : romBits t.rom = a := by simpa using List.find?_some ht
      rw [List.filterMap_cons, ht, Option.map_some, List.map_cons, hta,
        ih fun a ha => hl a (List.mem_cons_of_mem _ ha)]
  refine hall _ fun a ha => ?_
  rwa [BitTrie.mem_inOrder fun a ha => length_of_mem_addresses ha] at ha

theorem length_inOrder : (inOrder bus).length = (BitTrie.inOrder 64 (addresses bus)).length := by
  rw [← map_inOrder, List.length_map]

theorem getElem?_inOrder :
    (BitTrie.inOrder 64 (addresses bus))[k]? = (inOrder bus)[k]?.map fun d => romBits d.rom := by
  rw [← map_inOrder, List.getElem?_map]

/-- What the loop leaves behind the search command. -/
theorem searchLoop_reset (hne : bus ≠ []) (hrom : w.romNo.length = 8) {q : List Bool} {s : Scan}
    (hq : q = BitTrie.walk 64 (addresses bus) (romBits w.romNo) w.lastDiscrepancy)
    (hs : s = searchLoop w.lastDiscrepancy 64
      ⟨1, 0, 0, 1#8, w.romNo, w.lastFamilyDiscrepancy, write (reset bus).1 searchRom⟩) :
    Scanning bus (romBits w.romNo) q (.selected []) s ∧
      s.lastZero = BitTrie.lastOpen 64 (addresses bus) q ∧ q ∈ addresses bus ∧ q.length = 64 := by
  have hlength : (romBits w.romNo).length = 64 := by rw [romBits, length_flatMap_bits, hrom]
  have hsearch : romCommand (bits 8 searchRom) = .offering 0 := by decide
  have hbus : write (reset bus).1 searchRom = inPhase bus [] (.offering 0) := by
    rw [reset, write_command, hsearch, inPhase]
    apply List.map_congr_left
    intro s _
    rw [if_pos (List.nil_prefix)]
  have hstart : Scanning bus (romBits w.romNo) [] (behindPath [])
      ⟨1, 0, 0, 1#8, w.romNo, w.lastFamilyDiscrepancy, write (reset bus).1 searchRom⟩ :=
    ⟨rfl, rfl, rfl, hrom, rfl, hbus⟩
  have hways : ways bus [] = addresses bus := rfl
  have hS : ways bus [] ≠ [] := by simpa [hways, addresses] using hne
  obtain ⟨hend, hlast⟩ := searchLoop_walk (d := w.lastDiscrepancy) hstart (Nat.zero_add 64) hlength hS rfl
  rw [List.length_nil, List.drop_zero, Nat.sub_zero, hways, ← hq] at hend hlast
  rw [← hs, List.nil_append] at hend
  have hmem : q ∈ addresses bus := by
    rw [hq]
    exact BitTrie.walk_mem (fun a ha => length_of_mem_addresses ha) (hways ▸ hS)
  refine ⟨hend, ?_, hmem, length_of_mem_addresses hmem⟩
  rw [hs, hlast]
  split
  · rfl
  · rename_i hzero
    rw [not_not] at hzero
    exact hzero.symm

/-- The family code is in the first eight bits of the address. -/
theorem family_eq_zero {rom : List Byte} (hrom : rom.length = 8) :
    rom.getD 0 0#8 = 0#8 ↔ (romBits rom).take 8 = List.replicate 8 false := by
  cases rom with
  | nil => cases hrom
  | cons x rest =>
    have htake : (romBits (x :: rest)).take 8 = bits 8 x := by
      rw [romBits, List.flatMap_cons, List.take_left' (length_bits 8 x)]
    have hzero : List.replicate 8 false = bits 8 0#8 := by decide
    rw [htake, hzero, List.getD_cons_zero]
    exact ⟨fun h => by rw [h], bits_injective⟩

/-- A search that comes to an address returns it, unless its family code is zero. -/
theorem search_found (hflag : w.lastDeviceFlag = false) (hne : bus ≠ []) (hrom : w.romNo.length = 8)
    {q : List Bool} (hq : q = BitTrie.walk 64 (addresses bus) (romBits w.romNo) w.lastDiscrepancy) :
    ∃ rom, rom.length = 8 ∧ romBits rom = q ∧ SameDevices bus (search w bus).2.1 ∧
      (search w bus).1.romNo = rom ∧
      (rom.getD 0 0#8 ≠ 0#8 → (search w bus).2.2 = some rom ∧
        (search w bus).1.lastDiscrepancy = BitTrie.lastOpen 64 (addresses bus) q ∧
        (search w bus).1.lastDeviceFlag = decide (BitTrie.lastOpen 64 (addresses bus) q = 0)) ∧
      (rom.getD 0 0#8 = 0#8 → (search w bus).2.2 = none ∧ (search w bus).1.lastDiscrepancy = 0 ∧
        (search w bus).1.lastDeviceFlag = false) := by
  obtain ⟨s, hs⟩ : ∃ s, s = searchLoop w.lastDiscrepancy 64
      ⟨1, 0, 0, 1#8, w.romNo, w.lastFamilyDiscrepancy, write (reset bus).1 searchRom⟩ := ⟨_, rfl⟩
  obtain ⟨hend, hlast, hmem, hlen⟩ := searchLoop_reset hne hrom hq hs
  have hbits : romBits s.romNo = q := by
    have h := hend.romBits_eq
    rw [hlen, List.drop_of_length_le (by rw [romBits, length_flatMap_bits, hrom])] at h
    simpa using h
  have hpresent : reset bus = ((reset bus).1, true) := by
    cases bus with
    | nil => exact absurd rfl hne
    | cons s bus => rfl
  have hnumber : ¬ s.idBitNumber < 65 := by
    rw [hend.number, hlen]
    decide
  have hsame : SameDevices bus s.bus := by
    rw [hend.bus_eq]
    exact sameDevices_inPhase
  have hsearch : search w bus =
      if s.romNo.getD 0 0#8 = 0#8 then
        (OneWire.notFound ⟨s.romNo, s.lastZero, s.lastFamilyDiscrepancy,
          if s.lastZero = 0 then true else w.lastDeviceFlag⟩, s.bus, none)
      else (⟨s.romNo, s.lastZero, s.lastFamilyDiscrepancy,
          if s.lastZero = 0 then true else w.lastDeviceFlag⟩, s.bus, some s.romNo) := by
    rw [search, hflag, hpresent]
    dsimp only
    rw [← hs, if_neg Bool.false_ne_true, if_neg hnumber]
  refine ⟨s.romNo, hend.length_eq, hbits, ?_, ?_, ?_, ?_⟩
  · rw [hsearch]
    split <;> exact hsame
  · rw [hsearch]
    split <;> rfl
  · intro hfamily
    rw [hsearch, if_neg hfamily, ← hlast]
    refine ⟨rfl, rfl, ?_⟩
    rw [hflag]
    by_cases hzero : s.lastZero = 0 <;> simp [hzero]
  · intro hfamily
    rw [hsearch, if_pos hfamily]
    exact ⟨rfl, rfl, rfl⟩

/-- The search on the wire does what going through the addresses in order does. -/
theorem search_memory (hrom : w.romNo.length = 8) (hfamily : ∀ s ∈ bus, s.rom.getD 0 0#8 ≠ 0#8) :
    (search w bus).1.memory = (BitTrie.next 64 (addresses bus) w.memory).1 ∧
      (search w bus).2.2.map romBits = (BitTrie.next 64 (addresses bus) w.memory).2 ∧
      (search w bus).1.romNo.length = 8 ∧ SameDevices bus (search w bus).2.1 := by
  cases hflag : w.lastDeviceFlag with
  | true =>
    have hdone : w.memory.done = true := hflag
    rw [search, hflag, if_pos rfl, BitTrie.next, if_pos (Or.inl hdone)]
    exact ⟨rfl, rfl, hrom, rfl⟩
  | false =>
    have hdone : w.memory.done = false := hflag
    by_cases hne : bus = []
    · have hempty : addresses bus = [] := by rw [hne]; rfl
      have hnone : search w bus = (w.notFound, (reset bus).1, none) := by
        rw [search, hflag, hne]
        rfl
      rw [hnone, BitTrie.next, if_pos (.inr hempty)]
      exact ⟨rfl, rfl, hrom, sameDevices_reset⟩
    · obtain ⟨rom, hlen, hbits, hsame, hromNo, hfound, -⟩ := search_found hflag hne hrom rfl
      have hmem : BitTrie.walk 64 (addresses bus) (romBits w.romNo) w.lastDiscrepancy ∈ addresses bus :=
        BitTrie.walk_mem (fun a ha => length_of_mem_addresses ha) (by simpa [addresses] using hne)
      have hnonzero : rom.getD 0 0#8 ≠ 0#8 := by
        rw [← hbits] at hmem
        obtain ⟨s, hs, hrs⟩ := List.mem_map.mp hmem
        have hsrom : s.rom = rom := flatMap_bits_injective (Nat.succ_pos 7) hrs
        rw [← hsrom]
        exact hfamily s hs
      obtain ⟨hresult, hplace, hlast⟩ := hfound hnonzero
      have hopen : ¬ (w.memory.done = true ∨ addresses bus = []) := by
        simp [hdone, addresses, hne]
      rw [BitTrie.next, if_neg hopen, hresult, OneWire.memory, hplace, hlast, hromNo, hbits]
      refine ⟨rfl, ?_, hlen, hsame⟩
      rw [Option.map_some, hbits]
      rfl

/-- The results of as many calls of `search`, one after the other. -/
def searches : ℕ → OneWire → Bus → List (Option (List Byte))
  | 0, _, _ => []
  | k + 1, w, bus => (search w bus).2.2 :: searches k (search w bus).1 (search w bus).2.1

theorem map_romBits_injective {x y : Option (List Byte)} (h : x.map romBits = y.map romBits) : x = y := by
  cases x <;> cases y
  · rfl
  · cases h
  · cases h
  · exact congrArg some (flatMap_bits_injective (Nat.succ_pos 7) (Option.some.inj h))

/-- The step of a search through all devices. -/
theorem search_due (hdue : BitTrie.Due 64 (addresses bus) w.memory k) (hrom : w.romNo.length = 8)
    (hfamily : ∀ s ∈ bus, s.rom.getD 0 0#8 ≠ 0#8) :
    (search w bus).2.2 = (inOrder bus)[k]?.map (·.rom) ∧
      BitTrie.Due 64 (addresses (search w bus).2.1) (search w bus).1.memory
        (if k < (inOrder bus).length then k + 1 else 0) ∧
      (search w bus).1.romNo.length = 8 ∧ SameDevices bus (search w bus).2.1 := by
  obtain ⟨hmemory, hresult, hlen, hsame⟩ := search_memory hrom hfamily
  obtain ⟨hnext, hdue'⟩ := hdue.next fun a ha => length_of_mem_addresses ha
  rw [← hmemory, ← length_inOrder, ← hsame.addresses_eq] at hdue'
  rw [hnext, getElem?_inOrder] at hresult
  refine ⟨map_romBits_injective ?_, hdue', hlen, hsame⟩
  rw [hresult, Option.map_map]
  rfl

theorem SameDevices.forall_mem {bus' : Bus} {P : Device → Prop} (h : SameDevices bus bus')
    (hall : ∀ s ∈ bus, P s.toDevice) : ∀ s ∈ bus', P s.toDevice := by
  intro s hs
  have hmem : s.toDevice ∈ bus'.map (·.toDevice) := List.mem_map.mpr ⟨s, hs, rfl⟩
  rw [h] at hmem
  obtain ⟨t, ht, heq⟩ := List.mem_map.mp hmem
  rw [← heq]
  exact hall t ht

theorem searches_due (hdue : BitTrie.Due 64 (addresses bus) w.memory k) (hrom : w.romNo.length = 8)
    (hfamily : ∀ s ∈ bus, s.rom.getD 0 0#8 ≠ 0#8) (hk : k ≤ (inOrder bus).length) :
    searches n w bus =
      (List.range n).map fun j => (inOrder bus)[(k + j) % ((inOrder bus).length + 1)]?.map (·.rom) := by
  induction n generalizing k w bus with
  | zero => rfl
  | succ n ih =>
    obtain ⟨hresult, hdue', hlen, hsame⟩ := search_due hdue hrom hfamily
    have horder := hsame.inOrder_eq
    have hnext : (if k < (inOrder bus).length then k + 1 else 0) = (k + 1) % ((inOrder bus).length + 1) := by
      split
      · rw [Nat.mod_eq_of_lt (by omega)]
      · rw [show k + 1 = (inOrder bus).length + 1 by omega, Nat.mod_self]
    have hle : (if k < (inOrder bus).length then k + 1 else 0) ≤ (inOrder (search w bus).2.1).length := by
      rw [horder]
      split <;> omega
    have hrest := ih hdue' hlen (hsame.forall_mem (P := fun d => d.rom.getD 0 0#8 ≠ 0#8) hfamily) hle
    have hfirst : (k + 0) % ((inOrder bus).length + 1) = k := Nat.mod_eq_of_lt (by omega)
    rw [searches, hrest, hresult, horder, hnext, List.range_succ_eq_map, List.map_cons, List.map_map,
      hfirst]
    refine List.cons_eq_cons.mpr ⟨rfl, List.map_congr_left ?_⟩
    intro j _
    dsimp only [Function.comp_apply]
    rw [Nat.mod_add_mod, show k + 1 + j = k + (j + 1) by omega]

theorem due_resetSearch : BitTrie.Due 64 (addresses bus) resetSearch.memory 0 := .first rfl rfl

/-- The devices in order have the addresses on the wire, each of them once, in lexicographic order. -/
theorem inOrder_spec (bus : Bus) : (∀ d ∈ inOrder bus, ∃ s ∈ bus, s.toDevice = d) ∧
    (∀ s ∈ bus, ∃ d ∈ inOrder bus, d.rom = s.rom) ∧
    (inOrder bus).Pairwise fun d e => List.Lex (· < ·) (romBits d.rom) (romBits e.rom) := by
  refine ⟨?_, ?_, ?_⟩
  · intro d hd
    obtain ⟨a, -, hfind⟩ := List.mem_filterMap.mp hd
    obtain ⟨s, hs, hsd⟩ := Option.map_eq_some_iff.mp hfind
    exact ⟨s, List.mem_of_find?_eq_some hs, hsd⟩
  · intro s hs
    have hmem : romBits s.rom ∈ BitTrie.inOrder 64 (addresses bus) :=
      (BitTrie.mem_inOrder fun a ha => length_of_mem_addresses ha).mpr (List.mem_map.mpr ⟨s, hs, rfl⟩)
    rw [← map_inOrder] at hmem
    obtain ⟨d, hd, hbits⟩ := List.mem_map.mp hmem
    exact ⟨d, hd, flatMap_bits_injective (Nat.succ_pos 7) hbits⟩
  · have hsorted : (BitTrie.inOrder 64 (addresses bus)).Pairwise (List.Lex (· < ·)) :=
      BitTrie.sorted_inOrder
    rw [← map_inOrder, List.pairwise_map] at hsorted
    exact hsorted

/-- After `reset_search` the calls return every address on the wire once, in lexicographic order,
then nothing, and then begin anew. -/
theorem searches_enumerate (bus : Bus) (hfamily : ∀ s ∈ bus, s.rom.getD 0 0#8 ≠ 0#8) :
    (∀ rom, (∃ d ∈ inOrder bus, d.rom = rom) ↔ ∃ s ∈ bus, s.rom = rom) ∧
      ((inOrder bus).Pairwise fun d e => List.Lex (· < ·) (romBits d.rom) (romBits e.rom)) ∧
      ∀ n, searches n resetSearch bus =
        (List.range n).map fun k => (inOrder bus)[k % ((inOrder bus).length + 1)]?.map (·.rom) := by
  obtain ⟨hfrom, hto, hsorted⟩ := inOrder_spec bus
  refine ⟨?_, hsorted, ?_⟩
  · intro rom
    constructor
    · rintro ⟨d, hd, rfl⟩
      obtain ⟨s, hs, rfl⟩ := hfrom d hd
      exact ⟨s, hs, rfl⟩
    · rintro ⟨s, hs, rfl⟩
      exact hto s hs
  · intro n
    have h := @searches_due bus 0 resetSearch n due_resetSearch List.length_replicate hfamily (Nat.zero_le _)
    simpa only [Nat.zero_add] using h

/-- Two sensors that have just been switched on. -/
def twoSensors : Bus :=
  [⟨⟨[0x28#8, 0x11#8, 0x22#8, 0x33#8, 0x44#8, 0x05#8, 0x00#8, 0x99#8],
      [0x50#8, 0x05#8, 0x4b#8, 0x46#8, 0x7f#8, 0xff#8, 0x0c#8, 0x10#8, 0x1c#8],
      [0x58#8, 0x02#8, 0x4b#8, 0x46#8, 0x7f#8, 0xff#8, 0x08#8, 0x10#8, 0xbe#8], false, 750, none,
      rfl, rfl, rfl⟩,
    .idle⟩,
   ⟨⟨[0x28#8, 0x6a#8, 0x22#8, 0x33#8, 0x44#8, 0x05#8, 0x00#8, 0xf9#8],
      [0x50#8, 0x05#8, 0x4b#8, 0x46#8, 0x7f#8, 0xff#8, 0x0c#8, 0x10#8, 0x1c#8],
      [0x71#8, 0x02#8, 0x4b#8, 0x46#8, 0x7f#8, 0xff#8, 0x08#8, 0x10#8, 0x7f#8], true, 750, none,
      rfl, rfl, rfl⟩,
    .sending [true, false]⟩]

theorem searches_enumerate_two : searches 4 resetSearch twoSensors =
    [some [0x28#8, 0x6a#8, 0x22#8, 0x33#8, 0x44#8, 0x05#8, 0x00#8, 0xf9#8],
     some [0x28#8, 0x11#8, 0x22#8, 0x33#8, 0x44#8, 0x05#8, 0x00#8, 0x99#8], none,
     some [0x28#8, 0x6a#8, 0x22#8, 0x33#8, 0x44#8, 0x05#8, 0x00#8, 0xf9#8]] := by
  have hfamily : ∀ s ∈ twoSensors, s.rom.getD 0 0#8 ≠ 0#8 := by decide
  rw [(searches_enumerate twoSensors hfamily).2.2 4]
  decide +kernel

/-- A device with the family code zero hides all devices: no call finds anything. -/
theorem searches_hidden (bus : Bus) (hzero : ∃ s ∈ bus, s.rom.getD 0 0#8 = 0#8) (n : ℕ) :
    searches n resetSearch bus = List.replicate n none := by
  have hrun : ∀ n w bus, w.romNo.length = 8 → w.lastDeviceFlag = false → w.lastDiscrepancy = 0 →
      (∃ s ∈ bus, s.rom.getD 0 0#8 = 0#8) → searches n w bus = List.replicate n none := by
    intro n
    induction n with
    | zero => intros; rfl
    | succ n ih =>
      intro w bus hrom hflag hplace hzero
      obtain ⟨s, hs, hs0⟩ := hzero
      obtain ⟨rom, hlen, hbits, hsame, hromNo, -, hfound⟩ :=
        search_found hflag (List.ne_nil_of_mem hs) hrom rfl
      have haddress : List.replicate 8 false ++ (romBits s.rom).drop 8 ∈ addresses bus := by
        rw [← (family_eq_zero s.rom_length).mp hs0, List.take_append_drop]
        exact List.mem_map.mpr ⟨s, hs, rfl⟩
      have hfamily : rom.getD 0 0#8 = 0#8 := by
        rw [family_eq_zero hlen, hbits, hplace]
        exact BitTrie.take_walk_zero haddress (by decide)
      obtain ⟨hresult, hplace', hflag'⟩ := hfound hfamily
      have hzero' : ∃ s ∈ (search w bus).2.1, s.rom.getD 0 0#8 = 0#8 := by
        by_contra hnone
        have hall : ∀ s ∈ (search w bus).2.1, s.rom.getD 0 0#8 ≠ 0#8 :=
          fun s hs h0 => hnone ⟨s, hs, h0⟩
        exact SameDevices.forall_mem (P := fun d => d.rom.getD 0 0#8 ≠ 0#8)
          (Eq.symm hsame : SameDevices (search w bus).2.1 bus) hall s hs hs0
      rw [searches, hresult, ih _ _ (by rw [hromNo]; exact hlen) hflag' hplace' hzero',
        List.replicate_succ]
  exact hrun n resetSearch bus rfl rfl rfl hzero

theorem searches_hidden_two : ∃ s : Slave, s.rom.getD 0 0#8 = 0#8 ∧
    searches 3 resetSearch (s :: twoSensors) = List.replicate 3 none := by
  obtain ⟨s, hs⟩ : ∃ s : Slave, s = ⟨⟨List.replicate 8 0#8, List.replicate 9 0#8, List.replicate 9 0#8,
    false, 750, none, rfl, rfl, rfl⟩, .idle⟩ := ⟨_, rfl⟩
  have hzero : s.rom.getD 0 0#8 = 0#8 := by rw [hs]; rfl
  exact ⟨s, hzero, searches_hidden _ ⟨s, List.mem_cons_self, hzero⟩ 3⟩

end Dallas
