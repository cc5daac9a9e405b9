import HomeConfig.Library.Single
import Mathlib.Tactic.Linarith

/-! The values of the IEEE double format, with the operations that leave them. -/

/-- The value of a double precision variable; the two zeros are one value here. -/
inductive Double where
  | finite (q : ℚ)
  | infinite (negative : Bool)
  | nan
deriving DecidableEq, Repr

namespace Double

/-- The nearest double precision value; too large a number is infinite. -/
def ofRat (q : ℚ) : Double :=
  let r := Binary.roundTo 53 (-1074) q
  if 2 ^ 1024 ≤ |r| then .infinite (r < 0) else .finite r

/-- `x <= y`; no value compares with `nan`. -/
def Le : Double → Double → Prop
  | .finite p, .finite q => p ≤ q
  | .finite _, .infinite negative => negative = false
  | .infinite negative, .finite _ => negative = true
  | .infinite m, .infinite n => m = true ∨ n = false
  | _, _ => False

instance : DecidableRel Le := fun x y => by
  cases x <;> cases y <;> unfold Le <;> infer_instance

end Double

/-- The whole part of a number. -/
def wholePart (q : ℚ) : ℤ := q.num.tdiv q.den

/-! ### Rounding and whole parts -/

namespace Binary

theorem abs_roundEven_sub_le (q : ℚ) : |(roundEven q : ℚ) - q| ≤ 1 / 2 := by
  have hfloor := Int.floor_add_fract q
  have hpos := Int.fract_nonneg q
  have hlt := Int.fract_lt_one q
  unfold roundEven
  split_ifs with h h' <;> rw [abs_le] <;> push_cast <;> constructor <;> linarith

/-- Rounding moves a number by half a unit in the last place at most. -/
theorem abs_roundTo_sub_le (p : ℕ) (emin : ℤ) (q : ℚ) :
    |roundTo p emin q - q| ≤ 2 ^ exponent p emin q / 2 := by
  have hunit : (0 : ℚ) < 2 ^ exponent p emin q := zpow_pos (by norm_num) _
  have hscaled := abs_roundEven_sub_le (q / 2 ^ exponent p emin q)
  have hsub : roundTo p emin q - q =
      (roundEven (q / 2 ^ exponent p emin q) - q / 2 ^ exponent p emin q) *
        2 ^ exponent p emin q := by
    rw [roundTo, sub_mul, div_mul_cancel₀ _ hunit.ne']
  rw [hsub, abs_mul, abs_of_pos hunit]
  calc _ ≤ 1 / 2 * 2 ^ exponent p emin q := mul_le_mul_of_nonneg_right hscaled hunit.le
    _ = _ := by ring

end Binary

theorem wholePart_of_nonneg {q : ℚ} (h : 0 ≤ q) : wholePart q = ⌊q⌋ := by
  rw [wholePart, Rat.floor_def']
  exact Int.tdiv_eq_ediv_of_nonneg (Rat.num_nonneg.2 h)

theorem wholePart_neg (q : ℚ) : wholePart (-q) = -wholePart q := by
  simp [wholePart, Int.neg_tdiv]

theorem wholePart_of_nonpos {q : ℚ} (h : q ≤ 0) : wholePart q = ⌈q⌉ := by
  rw [← neg_neg q, wholePart_neg, wholePart_of_nonneg (neg_nonneg.2 h), neg_neg, Int.floor_neg,
    neg_neg]

/-- A number that is not whole keeps its whole part when it moves by less than its distance
to the whole numbers. -/
theorem wholePart_eq_of_near {q r c : ℚ} (hnear : |r - q| < c)
    (hlow : (⌊q⌋ : ℚ) + c ≤ q) (hhigh : q ≤ ⌊q⌋ + 1 - c) : wholePart r = wholePart q := by
  obtain ⟨hleft, hright⟩ := abs_lt.1 hnear
  have hfloor : ⌊r⌋ = ⌊q⌋ := by
    rw [Int.floor_eq_iff]
    constructor <;> linarith
  have hceil : ⌈r⌉ = ⌊q⌋ + 1 := by
    rw [Int.ceil_eq_iff]
    constructor <;> push_cast <;> linarith
  have hceil' : ⌈q⌉ = ⌊q⌋ + 1 := by
    rw [Int.ceil_eq_iff]
    constructor <;> push_cast <;> linarith
  rcases le_or_gt 0 ⌊q⌋ with hsign | hsign
  · have hsign' : (0 : ℚ) ≤ ⌊q⌋ := by exact_mod_cast hsign
    rw [wholePart_of_nonneg (by linarith), wholePart_of_nonneg (by linarith), hfloor]
  · have hsign' : (⌊q⌋ : ℚ) + 1 ≤ 0 := by exact_mod_cast hsign
    rw [wholePart_of_nonpos (by linarith), wholePart_of_nonpos (by linarith), hceil, hceil']

/-! ### Quotients of integers -/

/-- A quotient that is not whole is at least one `d`th away from the whole numbers. -/
theorem floor_div_gap {n : ℤ} {d : ℕ} (hd : 1 ≤ d) (hmod : n % (d : ℤ) ≠ 0) :
    (⌊(n / d : ℚ)⌋ : ℚ) + 1 / d ≤ n / d ∧ (n / d : ℚ) ≤ ⌊(n / d : ℚ)⌋ + 1 - 1 / d := by
  have hd0 : (0 : ℚ) < d := by exact_mod_cast hd
  have hpos := Int.emod_nonneg n (by omega : (d : ℤ) ≠ 0)
  have hlt := Int.emod_lt_of_pos n (by omega : (0 : ℤ) < d)
  have hquotient : (n : ℚ) / d = (n / (d : ℤ) : ℤ) + (n % (d : ℤ) : ℤ) / (d : ℚ) := by
    have hsum : (d : ℤ) * (n / d) + n % d = n := Int.mul_ediv_add_emod n d
    have hsum : (d : ℚ) * (n / (d : ℤ) : ℤ) + (n % (d : ℤ) : ℤ) = n := by exact_mod_cast hsum
    rw [← hsum]
    field_simp
  have hlow : (1 : ℚ) / d ≤ (n % (d : ℤ) : ℤ) / (d : ℚ) := by
    have h1 : (1 : ℚ) ≤ (n % (d : ℤ) : ℤ) := by exact_mod_cast (by omega : 1 ≤ n % (d : ℤ))
    gcongr
  have hhigh : ((n % (d : ℤ) : ℤ) : ℚ) / d ≤ 1 - 1 / d := by
    have h1 : ((n % (d : ℤ) : ℤ) : ℚ) ≤ d - 1 := by
      exact_mod_cast (by omega : n % (d : ℤ) ≤ d - 1)
    rw [le_sub_iff_add_le, ← add_div, div_le_one hd0]
    linarith
  rw [Rat.floor_intCast_div_natCast, hquotient]
  constructor <;> linarith

namespace Double

theorem ofRat_of_small {q : ℚ} (h : |q| < 2 ^ 45) :
    ofRat q = .finite (Binary.roundTo 53 (-1074) q) ∧
      |Binary.roundTo 53 (-1074) q - q| < 1 / 64 := by
  have hexponent : Binary.exponent 53 (-1074) q ≤ -8 := by
    have hlog : Int.log 2 |q| < 45 := by
      rcases eq_or_ne q 0 with rfl | h0
      · simp
      · rw [← Int.lt_zpow_iff_log_lt (by norm_num) (abs_pos.2 h0)]
        exact_mod_cast h
    have hunit : Binary.exponent 53 (-1074) q =
      max (Int.log 2 |q| - ((53 : ℕ) - 1)) (-1074) := rfl
    omega
  have hunit : (2 : ℚ) ^ Binary.exponent 53 (-1074) q ≤ 2 ^ (-8 : ℤ) :=
    zpow_le_zpow_right₀ (by norm_num) hexponent
  have hnear : |Binary.roundTo 53 (-1074) q - q| < 1 / 64 := by
    have hsub := Binary.abs_roundTo_sub_le 53 (-1074) q
    norm_num at hunit ⊢
    linarith
  refine ⟨?_, hnear⟩
  have hsize : |Binary.roundTo 53 (-1074) q| < 2 ^ 46 := by
    have hsum := abs_sub_abs_le_abs_sub (Binary.roundTo 53 (-1074) q) q
    norm_num at h hnear ⊢
    linarith
  have hmax : (2 : ℚ) ^ 46 ≤ 2 ^ 1024 := pow_le_pow_right₀ (by norm_num) (by norm_num)
  rw [ofRat, if_neg (hsize.trans_le hmax).not_ge]

/-- The whole part of a quotient of integers of this size is not lost in the rounding. -/
theorem ofRat_div {n : ℤ} {d : ℕ} (hd : 1 ≤ d) (hd' : d ≤ 64) (hn : |n| < 2 ^ 45) :
    ∃ r, ofRat (n / d) = .finite r ∧ wholePart r = wholePart (n / d) := by
  have hdq : (1 : ℚ) ≤ d := by exact_mod_cast hd
  have hd0 : (0 : ℚ) < d := by linarith
  have hsmall : |(n / d : ℚ)| < 2 ^ 45 := by
    have hnq : |(n : ℚ)| < 2 ^ 45 := by exact_mod_cast hn
    rw [abs_div, abs_of_pos hd0]
    exact (div_le_self (abs_nonneg _) hdq).trans_lt hnq
  obtain ⟨hfinite, hnear⟩ := ofRat_of_small hsmall
  refine ⟨_, hfinite, ?_⟩
  rcases eq_or_ne (n % (d : ℤ)) 0 with h0 | h0
  · obtain ⟨k, rfl⟩ := Int.dvd_of_emod_eq_zero h0
    have hwhole : (((d : ℤ) * k : ℤ) / d : ℚ) = (k : ℤ) := by
      push_cast
      field_simp
    rw [hwhole] at hsmall ⊢
    have hsmall : |k| < 2 ^ 45 := by exact_mod_cast hsmall
    rw [Binary.roundTo_intCast (by norm_num) (by norm_num) (hsmall.trans (by norm_num))]
  · obtain ⟨hlow, hhigh⟩ := floor_div_gap hd h0
    have hinverse : (1 : ℚ) / 64 ≤ 1 / d := by
      have hdq' : (d : ℚ) ≤ 64 := by exact_mod_cast hd'
      gcongr
    exact wholePart_eq_of_near (hnear.trans_le hinverse) hlow hhigh

end Double
