import Mathlib.Order.Monotone.Basic
import Mathlib.Tactic.IntervalCases

/-! Day numbers of the proleptic Gregorian calendar. -/
namespace Calendar

def Leap (year : ℕ) : Prop := year % 4 = 0 ∧ (year % 100 ≠ 0 ∨ year % 400 = 0)

instance (year : ℕ) : Decidable (Leap year) := by
  unfold Leap
  infer_instance

/-- The days of the months of a common year. -/
def monthLengths : List ℕ := [31, 28, 31, 30, 31, 30, 31, 31, 30, 31, 30, 31]

def daysInMonth (year month : ℕ) : ℕ :=
  if month = 2 ∧ Leap year then 29 else monthLengths.getD (month - 1) 0

/-- The days of the years before, from year 1 on. -/
def daysBeforeYear (year : ℕ) : ℕ :=
  let y := year - 1
  y * 365 + y / 4 - y / 100 + y / 400

def daysBeforeMonth (year month : ℕ) : ℕ :=
  (monthLengths.take (month - 1)).sum + if 2 < month ∧ Leap year then 1 else 0

/-- Day 1 is the first of January of year 1, a Monday. -/
def ordinal (year month day : ℕ) : ℕ := daysBeforeYear year + daysBeforeMonth year month + day

/-- A day of the years 1 to 9999. -/
structure Valid (year month day : ℕ) : Prop where
  year_pos : 1 ≤ year
  year_le : year ≤ 9999
  month_pos : 1 ≤ month
  month_le : month ≤ 12
  day_pos : 1 ≤ day
  day_le : day ≤ daysInMonth year month

instance (year month day : ℕ) : Decidable (Valid year month day) :=
  decidable_of_iff
    (1 ≤ year ∧ year ≤ 9999 ∧ 1 ≤ month ∧ month ≤ 12 ∧ 1 ≤ day ∧ day ≤ daysInMonth year month)
    ⟨fun ⟨a, b, c, d, e, f⟩ => ⟨a, b, c, d, e, f⟩, fun ⟨a, b, c, d, e, f⟩ => ⟨a, b, c, d, e, f⟩⟩

variable {year month day : ℕ}

theorem daysInMonth_le (hpos : 1 ≤ month) (hle : month ≤ 12) : daysInMonth year month ≤ 31 := by
  unfold daysInMonth
  split
  · norm_num
  · interval_cases month <;> simp [monthLengths]

/-- A year has 365 days, and one more when it is a leap year. -/
theorem daysBeforeMonth_add_le (h : Valid year month day) :
    daysBeforeMonth year month + day ≤ 365 + if Leap year then 1 else 0 := by
  obtain ⟨-, -, hm, hm', -, hday⟩ := h
  unfold daysInMonth at hday
  unfold daysBeforeMonth
  by_cases hleap : Leap year
  · simp only [hleap, and_true, if_true] at hday ⊢
    interval_cases month <;> simp [monthLengths] at hday ⊢ <;> omega
  · simp only [hleap, and_false, if_false] at hday ⊢
    interval_cases month <;> simp [monthLengths] at hday ⊢ <;> omega

theorem daysBeforeYear_succ (h : 1 ≤ year) :
    daysBeforeYear (year + 1) = daysBeforeYear year + 365 + if Leap year then 1 else 0 := by
  obtain ⟨y, rfl⟩ := Nat.exists_eq_add_of_le' h
  have h4 : (y + 1) / 4 = y / 4 + if (y + 1) % 4 = 0 then 1 else 0 := by split <;> omega
  have h100 : (y + 1) / 100 = y / 100 + if (y + 1) % 100 = 0 then 1 else 0 := by split <;> omega
  have h400 : (y + 1) / 400 = y / 400 + if (y + 1) % 400 = 0 then 1 else 0 := by split <;> omega
  have hle : y / 100 ≤ y / 4 := Nat.div_le_div_left (by norm_num) (by norm_num)
  simp only [daysBeforeYear, Nat.add_sub_cancel, h4, h100, h400]
  by_cases h400 : (y + 1) % 400 = 0
  · have hleap : Leap (y + 1) := ⟨by omega, .inr h400⟩
    rw [if_pos hleap, if_pos h400, if_pos (by omega), if_pos (by omega)]
    omega
  · by_cases h100 : (y + 1) % 100 = 0
    · have hleap : ¬ Leap (y + 1) := fun h => h.2.elim (fun h => h h100) h400
      rw [if_neg hleap, if_neg h400, if_pos h100, if_pos (by omega)]
      omega
    · by_cases h4 : (y + 1) % 4 = 0
      · have hleap : Leap (y + 1) := ⟨h4, .inl h100⟩
        rw [if_pos hleap, if_neg h400, if_neg h100, if_pos h4]
        omega
      · have hleap : ¬ Leap (y + 1) := fun h => h4 h.1
        rw [if_neg hleap, if_neg h400, if_neg h100, if_neg h4]
        omega

theorem daysBeforeYear_mono : Monotone daysBeforeYear := by
  apply monotone_nat_of_le_succ
  intro year
  rcases Nat.eq_zero_or_pos year with rfl | h
  · simp [daysBeforeYear]
  · rw [daysBeforeYear_succ h]
    omega

theorem ordinal_pos (h : Valid year month day) : 1 ≤ ordinal year month day := by
  have hday := h.day_pos
  unfold ordinal
  omega

/-- The last day of year 9999. -/
theorem ordinal_le (h : Valid year month day) : ordinal year month day ≤ 3652059 := by
  have hyear := daysBeforeYear_succ h.year_pos
  have hmonth := daysBeforeMonth_add_le h
  have hlast : daysBeforeYear (year + 1) ≤ daysBeforeYear 10000 :=
    daysBeforeYear_mono (Nat.succ_le_succ h.year_le)
  have hvalue : daysBeforeYear 10000 = 3652059 := by norm_num [daysBeforeYear]
  unfold ordinal
  omega

end Calendar
