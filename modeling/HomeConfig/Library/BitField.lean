import Mathlib.Data.BitVec

/-! Bit fields of a machine word: reading and replacing a range of bits. -/
namespace BitField

variable {w start len start' len' : Nat} {x y : BitVec w}

/-- The low `len` bits. -/
def mask (w len : Nat) : BitVec w := BitVec.ofNat w (2 ^ len - 1)

/-- The `len` bits of `y` that begin at bit `start`. -/
def extract (y : BitVec w) (start len : Nat) : BitVec w := (y >>> start) &&& mask w len

/-- The word `y` with the `len` bits that begin at bit `start` taken from `x`. -/
def insert (y x : BitVec w) (start len : Nat) : BitVec w :=
  (y &&& ~~~(mask w len <<< start)) ||| ((x &&& mask w len) <<< start)

@[simp] theorem getLsbD_mask (i : Nat) :
    (mask w len).getLsbD i = (decide (i < w) && decide (i < len)) := by
  simp [mask, BitVec.getLsbD_ofNat]

theorem getLsbD_extract (i : Nat) :
    (extract y start len).getLsbD i = (decide (i < len) && y.getLsbD (start + i)) := by
  simp only [extract, BitVec.getLsbD_and, BitVec.getLsbD_ushiftRight, getLsbD_mask]
  by_cases hi : i < w
  · simp [hi, Bool.and_comm]
  · simp [BitVec.getLsbD_of_ge y (start + i) (by omega)]

theorem getLsbD_insert {i : Nat} (hi : i < w) :
    (insert y x start len).getLsbD i =
      if start ≤ i ∧ i < start + len then x.getLsbD (i - start) else y.getLsbD i := by
  simp only [insert, BitVec.getLsbD_or, BitVec.getLsbD_and, BitVec.getLsbD_not,
    BitVec.getLsbD_shiftLeft, getLsbD_mask, hi]
  by_cases hs : start ≤ i
  · by_cases he : i < start + len
    · simp [hs, he, show ¬ i < start by omega, show i - start < len by omega,
        show i - start < w by omega]
    · simp [he, show ¬ i - start < len by omega]
  · simp [hs, show i < start by omega]

/-- The inserted bits are read back. -/
theorem extract_insert_self (h : start + len ≤ w) :
    extract (insert y x start len) start len = extract x 0 len := by
  apply BitVec.eq_of_getLsbD_eq
  intro i hi
  rw [getLsbD_extract, getLsbD_extract]
  by_cases hl : i < len
  · rw [getLsbD_insert (by omega), if_pos (by omega)]
    simp [hl]
  · simp [hl]

/-- Inserting a field leaves the disjoint fields alone. -/
theorem extract_insert_of_disjoint (h : start + len ≤ start' ∨ start' + len' ≤ start) :
    extract (insert y x start len) start' len' = extract y start' len' := by
  apply BitVec.eq_of_getLsbD_eq
  intro i hi
  rw [getLsbD_extract, getLsbD_extract]
  by_cases hl : i < len'
  · by_cases hw : start' + i < w
    · rw [getLsbD_insert hw, if_neg (by omega)]
    · simp [BitVec.getLsbD_of_ge _ _ (Nat.le_of_not_lt hw)]
  · simp [hl]

/-- A value that fits the field is not changed by cutting it to the field. -/
theorem insert_insert_self : insert (insert y x start len) x start len = insert y x start len := by
  apply BitVec.eq_of_getLsbD_eq
  intro i hi
  rw [getLsbD_insert hi, getLsbD_insert hi]
  split
  · rfl
  · rfl

theorem extract_of_lt (h : x.toNat < 2 ^ len) : extract x 0 len = x := by
  apply BitVec.eq_of_getLsbD_eq
  intro i hi
  rw [getLsbD_extract, Nat.zero_add]
  by_cases hl : i < len
  · simp [hl]
  · have hx : x.toNat.testBit i = false :=
      Nat.testBit_lt_two_pow (Nat.lt_of_lt_of_le h (Nat.pow_le_pow_right (by omega) (by omega)))
    simp [hl, BitVec.getLsbD, hx]

theorem toNat_extract_lt : (extract y start len).toNat < 2 ^ len := by
  have hmask : (mask w len).toNat < 2 ^ len := by
    have hpos : 0 < 2 ^ len := Nat.two_pow_pos len
    have hle : (2 ^ len - 1) % 2 ^ w ≤ 2 ^ len - 1 := Nat.mod_le _ _
    rw [mask, BitVec.toNat_ofNat]
    omega
  rw [extract, BitVec.toNat_and]
  exact Nat.and_lt_two_pow _ hmask

end BitField
