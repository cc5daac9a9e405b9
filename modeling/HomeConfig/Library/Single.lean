import Mathlib.Data.Int.Log
import Mathlib.Data.Rat.Floor
import Mathlib.Tactic.FieldSimp

/-! Binary floating point numbers: rounding to nearest even at a given precision,
and the values and bit patterns of the IEEE single format. -/
namespace Binary

variable {p : ℕ} {emin n : ℤ}

/-- The integer nearest to `q`, the even one of two that are equally near. -/
def roundEven (q : ℚ) : ℤ :=
  if Int.fract q < 1 / 2 then ⌊q⌋
  else if 1 / 2 < Int.fract q then ⌊q⌋ + 1
  else if ⌊q⌋ % 2 = 0 then ⌊q⌋ else ⌊q⌋ + 1

/-- The exponent of the last place of `q` in a format with `p` significant bits
whose smallest exponent is `emin`. -/
def exponent (p : ℕ) (emin : ℤ) (q : ℚ) : ℤ := max (Int.log 2 |q| - (p - 1)) emin

def roundTo (p : ℕ) (emin : ℤ) (q : ℚ) : ℚ :=
  roundEven (q / 2 ^ exponent p emin q) * 2 ^ exponent p emin q

@[simp] theorem roundEven_intCast (n : ℤ) : roundEven n = n := by simp [roundEven]

theorem log_abs_lt (hp : 0 < p) (hn : |n| < 2 ^ p) : Int.log 2 |(n : ℚ)| < p := by
  rcases eq_or_ne n 0 with rfl | h0
  · simpa using hp
  · have hq : (0 : ℚ) < |(n : ℚ)| := by positivity
    rw [← Int.lt_zpow_iff_log_lt (by norm_num) hq]
    exact_mod_cast hn

/-- Integers that fit the significand are not rounded. -/
theorem roundTo_intCast (hp : 0 < p) (hemin : emin ≤ 0) (hn : |n| < 2 ^ p) :
    roundTo p emin n = n := by
  have he : exponent p emin n ≤ 0 := by
    have hlog := log_abs_lt hp hn
    exact max_le (by omega) hemin
  obtain ⟨k, hk⟩ := Int.eq_ofNat_of_zero_le (show 0 ≤ -exponent p emin n by omega)
  have hk : exponent p emin n = -k := by omega
  have hscaled : (n : ℚ) / 2 ^ exponent p emin n = ((n * 2 ^ k : ℤ) : ℚ) := by
    rw [hk]
    simp
  rw [roundTo, hscaled, roundEven_intCast, hk]
  push_cast
  field_simp
  simp

/-- Numbers whose significand fits are not rounded. -/
theorem roundTo_dyadic {e : ℤ} (hemin : emin ≤ e) (hn : |n| < 2 ^ p) :
    roundTo p emin (n * 2 ^ e) = n * 2 ^ e := by
  have hpos : ∀ e : ℤ, (0 : ℚ) < 2 ^ e := fun e => zpow_pos two_pos e
  rcases eq_or_ne n 0 with rfl | h0
  · simp [roundTo, roundEven]
  · have hq : (0 : ℚ) < |(n : ℚ) * 2 ^ e| :=
      abs_pos.mpr (mul_ne_zero (by exact_mod_cast h0) (hpos e).ne')
    have hlog : Int.log 2 |(n : ℚ) * 2 ^ e| < p + e := by
      rw [← Int.lt_zpow_iff_log_lt (by norm_num) hq, abs_mul, abs_of_pos (hpos e), Nat.cast_ofNat,
        zpow_add₀ two_ne_zero, zpow_natCast]
      exact mul_lt_mul_of_pos_right (by exact_mod_cast hn) (hpos e)
    have he : exponent p emin (n * 2 ^ e) ≤ e := max_le (by omega) hemin
    obtain ⟨k, hk⟩ := Int.eq_ofNat_of_zero_le (show 0 ≤ e - exponent p emin (n * 2 ^ e) by omega)
    have hscaled : (n : ℚ) * 2 ^ e / 2 ^ exponent p emin (n * 2 ^ e) = ((n * 2 ^ k : ℤ) : ℚ) := by
      rw [mul_div_assoc, ← zpow_sub₀ two_ne_zero, hk]
      push_cast
      rfl
    rw [roundTo, hscaled, roundEven_intCast, ← hscaled, div_mul_cancel₀ _ (hpos _).ne']

end Binary

/-- The value of a single precision variable. The two zeros compare equal and are
one value here. -/
inductive Single where
  | finite (q : ℚ)
  | infinite (negative : Bool)
  | nan
deriving DecidableEq, Repr

namespace Single

/-- The nearest single precision value; too large a number is infinite. -/
def ofRat (q : ℚ) : Single :=
  let r := Binary.roundTo 24 (-149) q
  if 2 ^ 128 ≤ |r| then .infinite (r < 0) else .finite r

/-- Sign bit, eight exponent bits and 23 fraction bits. -/
def ofBits (b : BitVec 32) : Single :=
  let negative := b.getLsbD 31
  let e : ℕ := b.toNat / 2 ^ 23 % 2 ^ 8
  let f : ℕ := b.toNat % 2 ^ 23
  let sign : ℚ := if negative then -1 else 1
  if e = 255 then (if f = 0 then .infinite negative else .nan)
  else if e = 0 then .finite (sign * f * 2 ^ (-149 : ℤ))
  else .finite (sign * (2 ^ 23 + f) * 2 ^ ((e : ℤ) - 150))

def toBits : Single → BitVec 32
  | .nan => 0x7fc00000
  | .infinite negative => if negative then 0xff800000 else 0x7f800000
  | .finite q =>
    let e := Binary.exponent 24 (-149) q
    let m := ⌊|q| / 2 ^ e⌋.toNat
    let magnitude := if m < 2 ^ 23 then m else (e + 150).toNat * 2 ^ 23 + (m - 2 ^ 23)
    BitVec.ofNat 32 ((if q < 0 then 2 ^ 31 else 0) + magnitude)

/-! ### Arithmetic, rounded after each operation -/

def add : Single → Single → Single
  | .finite a, .finite b => ofRat (a + b)
  | .infinite s, .finite _ => .infinite s
  | .finite _, .infinite t => .infinite t
  | .infinite s, .infinite t => if s = t then .infinite s else .nan
  | _, _ => .nan

def mul : Single → Single → Single
  | .finite a, .finite b => ofRat (a * b)
  | .infinite s, .finite b => if b = 0 then .nan else .infinite (s != decide (b < 0))
  | .finite a, .infinite t => if a = 0 then .nan else .infinite (t != decide (a < 0))
  | .infinite s, .infinite t => .infinite (s != t)
  | _, _ => .nan

def div : Single → Single → Single
  | .finite a, .finite b =>
    if b ≠ 0 then ofRat (a / b) else if a = 0 then .nan else .infinite (a < 0)
  | .infinite s, .finite b => .infinite (s != decide (b < 0))
  | .finite _, .infinite _ => .finite 0
  | _, _ => .nan

/-- The comparison `a < b`, false when an operand is not a number. -/
def lt : Single → Single → Bool
  | .finite a, .finite b => a < b
  | .infinite s, .finite _ => s
  | .finite _, .infinite t => !t
  | .infinite s, .infinite t => s && !t
  | _, _ => false

/-- The comparison `a != b`, true when an operand is not a number. -/
def ne (a b : Single) : Bool := a = .nan || a != b

/-- Integers of up to 24 bits are represented exactly. -/
theorem ofRat_intCast {n : ℤ} (hn : |n| < 2 ^ 24) : ofRat n = .finite n := by
  have hr : Binary.roundTo 24 (-149) (n : ℚ) = n :=
    Binary.roundTo_intCast (by norm_num) (by norm_num) hn
  have hsmall : ¬ (2 : ℚ) ^ 128 ≤ |(n : ℚ)| := by
    have hq : |(n : ℚ)| < 2 ^ 24 := by exact_mod_cast hn
    have hbig : (2 : ℚ) ^ 24 ≤ 2 ^ 128 := by norm_num
    linarith
  simp only [ofRat, hr, if_neg hsmall]

theorem ofRat_dyadic {n e : ℤ} (hn : |n| < 2 ^ 24) (hlow : -149 ≤ e) (hhigh : e ≤ 0) :
    ofRat (n * 2 ^ e) = .finite (n * 2 ^ e) := by
  have hr := Binary.roundTo_dyadic (p := 24) hlow hn
  have hsmall : ¬ (2 : ℚ) ^ 128 ≤ |(n : ℚ) * 2 ^ e| := by
    have hq : |(n : ℚ)| < 2 ^ 24 := by exact_mod_cast hn
    have hscale : (2 : ℚ) ^ e ≤ 1 := zpow_le_one_of_nonpos₀ (by norm_num) hhigh
    have hpos : (0 : ℚ) < 2 ^ e := zpow_pos two_pos e
    rw [abs_mul, abs_of_pos hpos, not_le]
    calc |(n : ℚ)| * 2 ^ e ≤ |(n : ℚ)| * 1 := mul_le_mul_of_nonneg_left hscale (abs_nonneg _)
      _ < 2 ^ 128 := by rw [mul_one]; exact hq.trans (by norm_num)
  simp only [ofRat, hr, if_neg hsmall]

/-- Every number that is stored is below the largest power. -/
theorem abs_lt_of_ofBits {b : BitVec 32} {q : ℚ} (h : ofBits b = .finite q) : |q| < 2 ^ 128 := by
  have hf : b.toNat % 2 ^ 23 < 2 ^ 23 := Nat.mod_lt _ (by norm_num)
  have he : b.toNat / 2 ^ 23 % 2 ^ 8 < 2 ^ 8 := Nat.mod_lt _ (by norm_num)
  unfold ofBits at h
  dsimp only at h
  generalize b.toNat % 2 ^ 23 = f at hf h
  generalize b.toNat / 2 ^ 23 % 2 ^ 8 = e at he h
  have hf' : (f : ℚ) < 2 ^ 23 := by exact_mod_cast hf
  have hf0 : (0 : ℚ) ≤ f := Nat.cast_nonneg f
  have hsign : |if b.getLsbD 31 = true then (-1 : ℚ) else 1| = 1 := by split <;> simp
  split at h
  · split at h <;> cases h
  · split at h
    · obtain rfl := Single.finite.inj h
      rw [abs_mul, abs_mul, hsign, one_mul, abs_of_nonneg hf0, abs_of_pos (zpow_pos two_pos _)]
      calc (f : ℚ) * 2 ^ (-149 : ℤ) ≤ f * 1 :=
            mul_le_mul_of_nonneg_left (zpow_le_one_of_nonpos₀ (by norm_num) (by norm_num)) hf0
        _ < 2 ^ 128 := by linarith
    · obtain rfl := Single.finite.inj h
      have hscale : (2 : ℚ) ^ ((e : ℤ) - 150) ≤ 2 ^ (104 : ℤ) :=
        zpow_le_zpow_right₀ (by norm_num) (by omega)
      have hmantissa : (0 : ℚ) ≤ 2 ^ 23 + f := add_nonneg (by norm_num) hf0
      rw [abs_mul, abs_mul, hsign, one_mul, abs_of_nonneg hmantissa, abs_of_pos (zpow_pos two_pos _)]
      calc (2 ^ 23 + f : ℚ) * 2 ^ ((e : ℤ) - 150) ≤ (2 ^ 23 + f) * 2 ^ (104 : ℤ) :=
            mul_le_mul_of_nonneg_left hscale hmantissa
        _ < 2 ^ 24 * 2 ^ (104 : ℤ) := mul_lt_mul_of_pos_right (by linarith) (by positivity)
        _ = 2 ^ 128 := by norm_num

end Single
