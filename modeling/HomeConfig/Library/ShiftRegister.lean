import Mathlib.Data.BitVec
import Mathlib.Data.List.GetD

/-! Cyclic redundancy checks as a feedback shift register that takes in one bit at a time,
and the errors such a register cannot miss. -/
namespace ShiftRegister

variable {w k : ℕ} {poly s t y : BitVec w} {a b : Bool} {as bs cs : List Bool}

/-- One bit goes in at the low end; the polynomial is fed back when the bit that
leaves differs from it. -/
def shift (poly s : BitVec w) (b : Bool) : BitVec w :=
  if (s.getLsbD 0 ^^ b) = true then s >>> 1 ^^^ poly else s >>> 1

def feed (poly s : BitVec w) (bs : List Bool) : BitVec w := bs.foldl (shift poly) s

/-- The low bits of a word, lowest first. -/
def bits (k : ℕ) (x : BitVec w) : List Bool := (List.range k).map x.getLsbD

@[simp] theorem feed_nil : feed poly s [] = s := rfl
@[simp] theorem feed_cons : feed poly s (b :: bs) = feed poly (shift poly s b) bs := rfl

theorem feed_append : feed poly s (as ++ bs) = feed poly (feed poly s as) bs :=
  List.foldl_append

@[simp] theorem length_bits (k : ℕ) (x : BitVec w) : (bits k x).length = k := by simp [bits]

theorem bits_injective {x y : BitVec w} (h : bits w x = bits w y) : x = y := by
  apply BitVec.eq_of_getLsbD_eq
  intro i hi
  have hbit := congrArg (·[i]?) h
  simpa [bits, hi] using hbit

theorem length_flatMap_bits (xs : List (BitVec w)) :
    (xs.flatMap (bits w)).length = w * xs.length := by
  induction xs with
  | nil => rfl
  | cons x xs ih =>
    rw [List.flatMap_cons, List.length_append, length_bits, ih, List.length_cons, Nat.mul_succ,
      Nat.add_comm]

theorem flatMap_bits_injective {xs ys : List (BitVec w)} (hw : 0 < w)
    (h : xs.flatMap (bits w) = ys.flatMap (bits w)) : xs = ys := by
  have hlen : xs.length = ys.length := by
    have hbits := congrArg List.length h
    rw [length_flatMap_bits, length_flatMap_bits] at hbits
    exact Nat.eq_of_mul_eq_mul_left hw hbits
  induction xs generalizing ys with
  | nil => exact (List.length_eq_zero_iff.mp hlen.symm).symm
  | cons x xs ih =>
    cases ys with
    | nil => cases hlen
    | cons y ys =>
      rw [List.flatMap_cons, List.flatMap_cons] at h
      obtain ⟨hbyte, hrest⟩ := List.append_inj h (by simp)
      rw [bits_injective hbyte, ih hrest (Nat.succ.inj hlen)]

theorem getLsbD_shift (i : ℕ) : (shift poly s b).getLsbD i =
    (s.getLsbD (1 + i) ^^ ((s.getLsbD 0 ^^ b) && poly.getLsbD i)) := by
  unfold shift
  split
  · rename_i h
    rw [h, BitVec.getLsbD_xor, BitVec.getLsbD_ushiftRight, Bool.true_and]
  · rename_i h
    rw [Bool.not_eq_true _ |>.mp h, BitVec.getLsbD_ushiftRight, Bool.false_and, Bool.xor_false]

/-! ### The register is linear -/

theorem shift_xor : shift poly (s ^^^ t) (a ^^ b) = shift poly s a ^^^ shift poly t b := by
  apply BitVec.eq_of_getLsbD_eq
  intro i _
  simp only [getLsbD_shift, BitVec.getLsbD_xor]
  cases s.getLsbD (1 + i) <;> cases t.getLsbD (1 + i) <;> cases s.getLsbD 0 <;>
    cases t.getLsbD 0 <;> cases a <;> cases b <;> simp

theorem feed_xor (h : as.length = bs.length) :
    feed poly (s ^^^ t) (List.zipWith (· ^^ ·) as bs) = feed poly s as ^^^ feed poly t bs := by
  induction as generalizing s t bs with
  | nil =>
    cases bs with
    | nil => rfl
    | cons b bs => simp at h
  | cons a as ih =>
    cases bs with
    | nil => simp at h
    | cons b bs =>
      rw [List.zipWith_cons_cons, feed_cons, feed_cons, feed_cons, shift_xor]
      exact ih (by simpa using h)

theorem shift_zero : shift poly 0 false = 0 := by
  apply BitVec.eq_of_getLsbD_eq
  intro i _
  simp [getLsbD_shift]

theorem feed_zero (n : ℕ) : feed poly 0 (List.replicate n false) = 0 := by
  induction n with
  | zero => rfl
  | succ n ih => rw [List.replicate_succ, feed_cons, shift_zero, ih]

/-- Whether two inputs leave the same register depends on their difference alone. -/
theorem feed_eq_iff (h : as.length = bs.length) :
    feed poly s as = feed poly s bs ↔ feed poly 0 (List.zipWith (· ^^ ·) as bs) = 0 := by
  have hxor : feed poly (s ^^^ s) (List.zipWith (· ^^ ·) as bs) = feed poly s as ^^^ feed poly s bs :=
    feed_xor h
  rw [BitVec.xor_self] at hxor
  rw [show (0 : BitVec w) = 0#w from rfl, hxor, BitVec.xor_eq_zero_iff]

/-! ### Running empty -/

/-- A register that is fed its own content, lowest bit first, moves down and takes
no feedback. -/
theorem feed_bits_self : feed poly s (bits k s) = s >>> k := by
  induction k with
  | zero => simp [bits]
  | succ k ih =>
    have hbits : bits (k + 1) s = bits k s ++ [s.getLsbD k] := by simp [bits, List.range_succ]
    rw [hbits, feed_append, ih, feed_cons, feed_nil]
    apply BitVec.eq_of_getLsbD_eq
    intro i _
    simp [getLsbD_shift, Nat.add_assoc]

theorem feed_complement (h : bs = (bits w s).map (!·)) :
    feed poly s bs = feed poly 0 (List.replicate w true) := by
  have hzip : bs = List.zipWith (· ^^ ·) (bits w s) (List.replicate w true) := by
    rw [h]
    apply List.ext_getElem
    · simp
    · intro i hi hi'
      simp
  have hxor : feed poly (s ^^^ 0) (List.zipWith (· ^^ ·) (bits w s) (List.replicate w true)) =
      feed poly s (bits w s) ^^^ feed poly 0 (List.replicate w true) := feed_xor (by simp)
  have hdrained : s >>> w = 0#w := by
    apply BitVec.eq_of_getLsbD_eq
    intro i _
    rw [BitVec.getLsbD_ushiftRight, BitVec.getLsbD_of_ge s (w + i) (by omega)]
    simp
  rw [feed_bits_self, hdrained] at hxor
  rw [hzip]
  simpa using hxor

/-- Feeding a word is the same as adding it to the register and shifting. -/
theorem feed_bits : feed poly s (bits k y) =
    feed poly (s ^^^ y) (List.replicate k false) ^^^ (y >>> k) := by
  have hzip : List.replicate k false = List.zipWith (· ^^ ·) (bits k y) (bits k y) := by
    apply List.ext_getElem
    · simp
    · intro i hi hi'
      simp
  rw [hzip, feed_xor rfl, feed_bits_self, BitVec.xor_assoc, BitVec.xor_self, BitVec.xor_zero]

/-- Shifts of a word: those of its low end, and the rest moved down. -/
theorem feed_low (x : BitVec w) : feed poly x (List.replicate k false) =
    feed poly ((x.setWidth k).setWidth w) (List.replicate k false) ^^^ (x >>> k) := by
  generalize hl : (x.setWidth k).setWidth w = low
  have hlow : ∀ i < w, low.getLsbD i = (decide (i < k) && x.getLsbD i) := by
    intro i hi
    simp [← hl, BitVec.getLsbD_setWidth, hi]
  have hrest : bits k (x ^^^ low) = List.replicate k false := by
    rw [List.eq_replicate_iff]
    refine ⟨length_bits _ _, ?_⟩
    intro b hb
    obtain ⟨i, hi, rfl⟩ := List.mem_map.mp hb
    have hik := List.mem_range.mp hi
    by_cases hw : i < w
    · rw [BitVec.getLsbD_xor, hlow i hw]
      simp [hik]
    · exact BitVec.getLsbD_of_ge _ _ (by omega)
  have hshift : (x ^^^ low) >>> k = x >>> k := by
    apply BitVec.eq_of_getLsbD_eq
    intro i _
    simp only [BitVec.getLsbD_ushiftRight, BitVec.getLsbD_xor]
    by_cases hw : k + i < w
    · rw [hlow _ hw]
      rw [decide_eq_false (by omega : ¬ k + i < k), Bool.false_and, Bool.xor_false]
    · simp [BitVec.getLsbD_of_ge low (k + i) (by omega)]
  have hxor : feed poly (low ^^^ (x ^^^ low))
      (List.zipWith (· ^^ ·) (List.replicate k false) (bits k (x ^^^ low))) =
      feed poly low (List.replicate k false) ^^^ feed poly (x ^^^ low) (bits k (x ^^^ low)) :=
    feed_xor (by simp)
  rw [feed_bits_self, hshift, hrest] at hxor
  rw [← hxor, BitVec.xor_comm x low, ← BitVec.xor_assoc, BitVec.xor_self, BitVec.zero_xor]
  simp

/-! ### Errors that cannot be missed -/

/-- A polynomial with its highest bit set. -/
def Proper (poly : BitVec w) : Prop := 0 < w ∧ poly.getLsbD (w - 1) = true

/-- Up to as many bits as the register has: it ends empty only when it held just these bits. -/
theorem feed_eq_zero_iff (hp : Proper poly) (hlen : bs.length ≤ w) :
    feed poly s bs = 0 ↔ ∀ i < w, s.getLsbD i = bs.getD i false := by
  induction bs generalizing s with
  | nil =>
    constructor
    · intro h i _
      rw [feed_nil] at h
      simp [h]
    · intro h
      apply BitVec.eq_of_getLsbD_eq
      intro i hi
      simpa using h i hi
  | cons b bs ih =>
    have hlen' : bs.length < w := hlen
    rw [feed_cons, ih hlen'.le]
    constructor
    · intro h i hi
      have hfeedback : s.getLsbD 0 = b := by
        have htop := h (w - 1) (by omega)
        rw [getLsbD_shift, hp.2, List.getD_eq_default _ _ (by omega),
          BitVec.getLsbD_of_ge s (1 + (w - 1)) (by omega)] at htop
        simpa using htop
      cases i with
      | zero => simpa using hfeedback
      | succ i =>
        have hnext := h i (by omega)
        rw [getLsbD_shift, hfeedback, Nat.add_comm] at hnext
        simpa using hnext
    · intro h i hi
      have hfeedback : s.getLsbD 0 = b := by simpa using h 0 hp.1
      rw [getLsbD_shift, hfeedback, Nat.add_comm]
      by_cases hi' : i + 1 < w
      · have hnext := h (i + 1) hi'
        simpa using hnext
      · rw [BitVec.getLsbD_of_ge s (i + 1) (by omega), List.getD_eq_default _ _ (by omega)]
        simp

theorem shift_injective (hp : Proper poly) (h : shift poly s b = shift poly t b) : s = t := by
  have hzero : feed poly (s ^^^ t) [false] = 0 := by
    have hxor : shift poly (s ^^^ t) (b ^^ b) = shift poly s b ^^^ shift poly t b := shift_xor
    rw [h, BitVec.xor_self, Bool.xor_self] at hxor
    exact hxor
  rw [@feed_eq_zero_iff w poly _ [false] hp hp.1] at hzero
  rw [← BitVec.xor_eq_zero_iff]
  apply BitVec.eq_of_getLsbD_eq
  intro i hi
  rw [hzero i hi]
  cases i <;> simp

theorem feed_injective (hp : Proper poly) (h : feed poly s bs = feed poly t bs) : s = t := by
  induction bs generalizing s t with
  | nil => exact h
  | cons b bs ih => exact shift_injective hp (ih h)

/-- Inputs that differ only within as many neighbouring bits as the register has
never leave the same register. -/
theorem feed_burst (hp : Proper poly) {xs zs : List Bool} (hlen : as.length = bs.length)
    (hw : as.length ≤ w) (h : feed poly s (xs ++ as ++ zs) = feed poly s (xs ++ bs ++ zs)) :
    as = bs := by
  simp only [feed_append] at h
  have hburst : feed poly (feed poly s xs) as = feed poly (feed poly s xs) bs := feed_injective hp h
  rw [feed_eq_iff hlen, feed_eq_zero_iff hp (by simpa [hlen] using hw)] at hburst
  apply List.ext_getElem hlen
  intro i hi hi'
  have hbit := hburst i (by omega)
  rw [List.getD_eq_getElem _ _ (by simp [hi, hi'])] at hbit
  simpa using hbit.symm

/-! ### Parity -/

def parity (bs : List Bool) : Bool := bs.foldr (· ^^ ·) false

@[simp] theorem parity_nil : parity [] = false := rfl
@[simp] theorem parity_cons : parity (b :: bs) = (b ^^ parity bs) := rfl

theorem parity_append : parity (as ++ bs) = (parity as ^^ parity bs) := by
  induction as with
  | nil => simp
  | cons a as ih => simp [ih]

theorem parity_eq_count : parity bs = decide (bs.count true % 2 = 1) := by
  induction bs with
  | nil => rfl
  | cons b bs ih =>
    cases b with
    | false => simp [ih]
    | true =>
      rw [parity_cons, ih, List.count_cons_self, Bool.true_xor, ← decide_not]
      congr 1
      rw [eq_iff_iff]
      omega

theorem parity_bits_xor (x y : BitVec w) :
    parity (bits k (x ^^^ y)) = (parity (bits k x) ^^ parity (bits k y)) := by
  induction k with
  | zero => rfl
  | succ k ih =>
    simp only [bits, List.range_succ, List.map_append, List.map_cons, List.map_nil] at ih ⊢
    simp only [parity_append, ih, BitVec.getLsbD_xor, parity_cons, parity_nil, Bool.xor_false]
    cases x.getLsbD k <;> cases y.getLsbD k <;> simp

theorem parity_bits_shiftRight : parity (bits w (s >>> 1)) = (s.getLsbD 0 ^^ parity (bits w s)) := by
  have hsucc : bits (w + 1) s = s.getLsbD 0 :: bits w (s >>> 1) := by
    simp only [bits, List.range_succ_eq_map, List.map_cons, List.map_map]
    congr 1
    apply List.map_congr_left
    intro i _
    simp [Nat.add_comm]
  have hlast : bits (w + 1) s = bits w s ++ [false] := by simp [bits, List.range_succ]
  have hparity : (s.getLsbD 0 ^^ parity (bits w (s >>> 1))) = parity (bits w s) := by
    rw [← parity_cons, ← hsucc, hlast, parity_append]
    simp
  rw [← hparity]
  simp

/-- With a polynomial of odd weight the register keeps count of the parity of its input. -/
theorem parity_feed (hodd : parity (bits w poly) = true) :
    parity (bits w (feed poly s bs)) = (parity (bits w s) ^^ parity bs) := by
  induction bs generalizing s with
  | nil => simp
  | cons b bs ih =>
    rw [feed_cons, ih, parity_cons, ← Bool.xor_assoc]
    congr 1
    unfold shift
    split
    · rename_i h
      rw [parity_bits_xor, parity_bits_shiftRight, hodd]
      cases hs : s.getLsbD 0 <;> cases b <;> simp_all
    · rename_i h
      rw [parity_bits_shiftRight]
      cases hs : s.getLsbD 0 <;> cases b <;> simp_all

/-- Inputs that leave the same register differ in an even number of bits. -/
theorem feed_odd (hodd : parity (bits w poly) = true) (hlen : as.length = bs.length)
    (h : feed poly s as = feed poly s bs) : (List.zipWith (· ^^ ·) as bs).count true % 2 = 0 := by
  rw [feed_eq_iff hlen] at h
  have hparity := @parity_feed w poly 0 (List.zipWith (· ^^ ·) as bs) hodd
  have hzero : parity (bits w (0 : BitVec w)) = false := by
    have hbits : bits w (0 : BitVec w) = List.replicate w false := by
      simp [bits, List.eq_replicate_iff]
    rw [parity_eq_count, hbits]
    simp [List.count_replicate]
  rw [h, hzero, Bool.false_xor, @parity_eq_count (List.zipWith _ _ _)] at hparity
  have hne := of_decide_eq_false hparity.symm
  omega

/-! ### Two wrong bits -/

theorem eq_replicate_of_count {n : ℕ} (h : bs.count true = n + 1) :
    ∃ i rest, bs = List.replicate i false ++ true :: rest ∧ rest.count true = n := by
  induction bs with
  | nil => simp at h
  | cons b bs ih =>
    cases b with
    | true => exact ⟨0, bs, rfl, by simpa using h⟩
    | false =>
      obtain ⟨i, rest, rfl, hrest⟩ := ih (by simpa using h)
      exact ⟨i + 1, rest, rfl, hrest⟩

theorem eq_replicate_false (h : bs.count true = 0) : bs = List.replicate bs.length false := by
  rw [List.eq_replicate_iff]
  refine ⟨rfl, ?_⟩
  intro b hb
  cases b with
  | false => rfl
  | true => exact absurd hb (List.count_eq_zero.mp h)

/-- Two wrong bits are missed only when the register comes back to one in the time
between them. -/
theorem feed_two (hp : Proper poly) {n : ℕ} (hlen : bs.length ≤ n)
    (hperiod : ∀ j < n, feed poly poly (List.replicate j false) ≠ 1) (h : bs.count true = 2) :
    feed poly 0 bs ≠ 0 := by
  obtain ⟨i, rest, rfl, hrest⟩ := eq_replicate_of_count h
  obtain ⟨j, rest, rfl, hzero⟩ := eq_replicate_of_count hrest
  rw [eq_replicate_false hzero] at hlen ⊢
  simp only [List.length_append, List.length_cons, List.length_replicate] at hlen
  have hfirst : shift poly 0 true = poly := by simp [shift]
  rw [feed_append, feed_zero, feed_cons, hfirst, feed_append, feed_cons]
  intro hcontra
  have hsecond : feed poly (feed poly poly (List.replicate j false)) [true] = 0 := by
    apply @feed_injective w poly _ _ (List.replicate rest.length false) hp
    rw [feed_zero]
    exact hcontra
  apply hperiod j (by omega)
  rw [@feed_eq_zero_iff w poly _ [true] hp hp.1] at hsecond
  apply BitVec.eq_of_getLsbD_eq
  intro k hk
  rw [hsecond k hk]
  cases k with
  | zero => simp [hk]
  | succ k => simp

/-- A code whose register neither runs empty nor comes back to one early detects every
error of one, two or three bits. -/
theorem feed_ne_of_few (hp : Proper poly) (hodd : parity (bits w poly) = true) {n : ℕ}
    (hperiod : ∀ j < n, feed poly poly (List.replicate j false) ≠ 1)
    (hlen : as.length = bs.length) (hn : as.length ≤ n)
    (hpos : 0 < (List.zipWith (· ^^ ·) as bs).count true)
    (hfew : (List.zipWith (· ^^ ·) as bs).count true ≤ 3) : feed poly s as ≠ feed poly s bs := by
  intro h
  have heven := feed_odd hodd hlen h
  rw [feed_eq_iff hlen] at h
  exact feed_two hp (by simp [← hlen, hn]) hperiod (by omega) h

/-! ### Small errors -/

/-- An input of the same length that differs in up to three bits, in an odd number of bits, or only
within `w` neighbouring bits. -/
inductive Near (w : ℕ) (as bs : List Bool) : Prop where
  | few : as.length = bs.length → (List.zipWith (· ^^ ·) as bs).count true ≤ 3 → Near w as bs
  | odd : as.length = bs.length → (List.zipWith (· ^^ ·) as bs).count true % 2 = 1 → Near w as bs
  | burst {xs ms ms' zs : List Bool} : as = xs ++ ms ++ zs → bs = xs ++ ms' ++ zs →
      ms.length = ms'.length → ms.length ≤ w → Near w as bs

theorem Near.length_eq (h : Near w as bs) : as.length = bs.length := by
  cases h with
  | few hlen _ => exact hlen
  | odd hlen _ => exact hlen
  | burst has hbs hlen _ => simp [has, hbs, hlen]

theorem eq_of_zipWith (hlen : as.length = bs.length)
    (h : (List.zipWith (· ^^ ·) as bs).count true = 0) : as = bs := by
  have hzero := eq_replicate_false h
  apply List.ext_getElem hlen
  intro i hi hi'
  have hlt : i < (List.zipWith (· ^^ ·) as bs).length := by
    rw [List.length_zipWith]
    omega
  have hbit := congrArg (·[i]?) hzero
  simp only [List.getElem?_eq_getElem hlt, List.getElem?_replicate, if_pos hlt, Option.some.injEq] at hbit
  simpa using hbit

/-- A small error always shows in the register. -/
theorem Near.eq_of_feed (h : Near w as bs) (hp : Proper poly) (hodd : parity (bits w poly) = true)
    {n : ℕ} (hperiod : ∀ j < n, feed poly poly (List.replicate j false) ≠ 1) (hn : as.length ≤ n)
    (hsame : feed poly s as = feed poly s bs) : as = bs := by
  cases h with
  | few hlen hcount =>
    by_contra hne
    have hpos : 0 < (List.zipWith (· ^^ ·) as bs).count true := by
      by_contra hzero
      exact hne (eq_of_zipWith hlen (by omega))
    exact feed_ne_of_few hp hodd hperiod hlen hn hpos hcount hsame
  | odd hlen hcount =>
    have heven := feed_odd hodd hlen hsame
    omega
  | burst has hbs hlen hw =>
    rw [has, hbs] at hsame ⊢
    rw [feed_burst hp hlen hw hsame]

end ShiftRegister
