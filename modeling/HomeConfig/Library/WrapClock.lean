import Mathlib.Tactic.Linarith
import Mathlib.Algebra.Order.Ring.Nat

/-! Comparing a clock with a deadline when both are only known modulo `M`. -/
namespace WrapClock

variable {M i s t : ℕ}

/-- The deadline has been reached but the clock still shows the previous lap. -/
theorem wrapped_of_deadline_ahead (hst : s ≤ t) (hi : i < M) (h : t / M < (s + i) / M) :
    (s + i) % M < t % M ∧ t < s + i := by
  have hd := Nat.div_add_mod (s + i) M
  have ht := Nat.div_add_mod t M
  have hm := Nat.mod_lt t (by omega : 0 < M)
  have hlap : M * (t / M) + M ≤ M * ((s + i) / M) := by
    simpa [Nat.mul_add] using Nat.mul_le_mul_left M (Nat.succ_le_of_lt h)
  omega

/-- The clock has entered the next lap and shows less than the deadline. -/
theorem wrapped_of_clock_ahead (ht : t < s + i + M) (h : (s + i) / M < t / M) :
    t % M < (s + i) % M ∧ s + i < t := by
  have hd := Nat.div_add_mod (s + i) M
  have hc := Nat.div_add_mod t M
  have hM : 0 < M := by
    rcases Nat.eq_zero_or_pos M with rfl | hM
    · simp at h
    · exact hM
  have hm := Nat.mod_lt (s + i) hM
  have hlap : M * ((s + i) / M) + M ≤ M * (t / M) := by
    simpa [Nat.mul_add] using Nat.mul_le_mul_left M (Nat.succ_le_of_lt h)
  omega

theorem lt_iff_of_same_lap (h : (s + i) / M = t / M) :
    (s + i) % M < t % M ↔ s + i < t := by
  have hd := Nat.div_add_mod (s + i) M
  have hc := Nat.div_add_mod t M
  rw [h] at hd
  omega

/-- Within one lap of the deadline, the wrapped comparison tells the truth exactly
when clock and deadline are on the same lap. -/
theorem lt_iff_lt_iff_same_lap (hst : s ≤ t) (hi : i < M) (ht : t < s + i + M) :
    ((s + i) % M < t % M ↔ s + i < t) ↔ (s + i) / M = t / M := by
  constructor
  · intro h
    rcases Nat.lt_trichotomy ((s + i) / M) (t / M) with hlt | heq | hgt
    · have := wrapped_of_clock_ahead ht hlt
      omega
    · exact heq
    · have := wrapped_of_deadline_ahead hst hi hgt
      omega
  · exact lt_iff_of_same_lap

end WrapClock
