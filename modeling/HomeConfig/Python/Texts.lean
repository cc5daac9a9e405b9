import HomeConfig.Python.DateTime

/-! What `strptime` makes of a date in plain digits, and how much of a time the text of
`strftime` tells. -/
namespace Python

/-! ### Matching digits -/

namespace Matcher

variable {py : Runtime} {tens ones value : Char → Option ℕ} {a b n : ℕ} {rest : Str}
  {upper lower : Char}

theorem decimal_tens (h : n < 100) : py.decimal (Nat.digitChar (n / 10)) = some (n / 10) :=
  py.decimal_digitChar _ (by omega)

theorem decimal_ones : py.decimal (Nat.digitChar (n % 10)) = some (n % 10) :=
  py.decimal_digitChar _ (by omega)

theorem digitChar_le_iff (ha : a < 10) (hn : n < 10) :
    Nat.digitChar a ≤ Nat.digitChar n ↔ a ≤ n := by
  interval_cases a <;> interval_cases n <;> decide

/-- A digit is in the range of its value. -/
theorem among_digitChar (ha : a < 10) (hb : b < 10) (hn : n < 10) :
    among (Nat.digitChar a) (Nat.digitChar b) (Nat.digitChar n) =
      if a ≤ n ∧ n ≤ b then some n else none := by
  have hzero : '0'.toNat = 48 := rfl
  simp only [among, digitChar_le_iff ha hn, digitChar_le_iff hn hb,
    Nat.toNat_digitChar_of_lt_ten hn, hzero, Nat.add_sub_cancel_left]

theorem two_twoDigits (htens : tens (Nat.digitChar (n / 10)) = some (n / 10))
    (hones : ones (Nat.digitChar (n % 10)) = some (n % 10)) :
    two tens ones (twoDigits n ++ rest) = [(n, rest)] := by
  have hn : 10 * (n / 10) + n % 10 = n := Nat.div_add_mod n 10
  simp [two, andThen, one, done, twoDigits, htens, hones, hn]

theorem two_none (htens : tens (Nat.digitChar (n / 10)) = none) :
    two tens ones (twoDigits n ++ rest) = [] := by
  simp [two, andThen, one, twoDigits, htens]

theorem year_digits (h : n < 10000) :
    year py (twoDigits (n / 100) ++ (twoDigits (n % 100) ++ rest)) = [(n, rest)] := by
  have hcentury : two py.decimal py.decimal
      (twoDigits (n / 100) ++ (twoDigits (n % 100) ++ rest)) =
      [(n / 100, twoDigits (n % 100) ++ rest)] := two_twoDigits (decimal_tens (by omega)) decimal_ones
  have hyear : two py.decimal py.decimal (twoDigits (n % 100) ++ rest) = [(n % 100, rest)] :=
    two_twoDigits (decimal_tens (by omega)) decimal_ones
  have hn : 100 * (n / 100) + n % 100 = n := Nat.div_add_mod n 100
  simp [year, andThen, hcentury, hyear, done, hn]

/-! ### Fields

A field ends at a character that is no digit, so one digit of two is no match. -/

variable {m m' : Matcher ℕ} {s : Str}

theorem field_found (h : m s = [(n, upper :: rest)]) : field m upper lower s = [(n, rest)] := by
  simp [field, andThen, literal, done, h]

theorem field_nil (h : m s = []) : field m upper lower s = [] := by simp [field, andThen, h]

theorem field_orElse : field (orElse m m') upper lower s =
    field m upper lower s ++ field m' upper lower s := by
  simp [field, andThen, orElse]

theorem field_one (h : ∀ k < 10, Nat.digitChar k ≠ upper ∧ Nat.digitChar k ≠ lower) :
    field (one value) upper lower (twoDigits n ++ rest) = [] := by
  have hne := h (n % 10) (Nat.mod_lt n (by norm_num))
  cases hvalue : value (Nat.digitChar (n / 10)) <;>
    simp [field, andThen, one, literal, twoDigits, hvalue, hne]

/-- Two digits, the first of which has to be in a range. -/
theorem field_two (hab : a ≤ b) (hb : b < 10) (hn : n < 100)
    (hones : a ≤ n / 10 ∧ n / 10 ≤ b → ones (Nat.digitChar (n % 10)) = some (n % 10)) :
    field (two (among (Nat.digitChar a) (Nat.digitChar b)) ones) upper lower
      (twoDigits n ++ upper :: rest) =
        if a ≤ n / 10 ∧ n / 10 ≤ b then [(n, rest)] else [] := by
  have hamong := among_digitChar (n := n / 10) (by omega : a < 10) hb (by omega)
  split
  · rw [if_pos ‹_›] at hamong
    exact field_found (two_twoDigits hamong (hones ‹_›))
  · rw [if_neg ‹_›] at hamong
    exact field_nil (two_none hamong)

theorem ones_among (hn : a ≤ n % 10 ∧ n % 10 ≤ b) (hb : b < 10) :
    among (Nat.digitChar a) (Nat.digitChar b) (Nat.digitChar (n % 10)) = some (n % 10) := by
  rw [among_digitChar (by omega) hb (by omega), if_pos hn]

theorem field_month (hpos : 1 ≤ n) (h : n ≤ 12) :
    field month '-' '-' (twoDigits n ++ '-' :: rest) = [(n, rest)] := by
  interval_cases n <;> rfl

theorem field_day (hpos : 1 ≤ n) (h : n ≤ 31) :
    field (day py) 'T' 't' (twoDigits n ++ 'T' :: rest) = [(n, rest)] := by
  have hthirty : field (two (among '3' '3') (among '0' '1')) 'T' 't' (twoDigits n ++ 'T' :: rest) =
      if 3 ≤ n / 10 ∧ n / 10 ≤ 3 then [(n, rest)] else [] :=
    field_two (a := 3) (b := 3) (by omega) (by omega) (by omega)
      fun _ => ones_among (a := 0) (b := 1) (by omega) (by omega)
  have htwenty : field (two (among '1' '2') py.decimal) 'T' 't' (twoDigits n ++ 'T' :: rest) =
      if 1 ≤ n / 10 ∧ n / 10 ≤ 2 then [(n, rest)] else [] :=
    field_two (a := 1) (b := 2) (by omega) (by omega) (by omega) fun _ => decimal_ones
  have hfew : field (two (among '0' '0') (among '1' '9')) 'T' 't' (twoDigits n ++ 'T' :: rest) =
      if 0 ≤ n / 10 ∧ n / 10 ≤ 0 then [(n, rest)] else [] :=
    field_two (a := 0) (b := 0) (by omega) (by omega) (by omega)
      fun _ => ones_among (a := 1) (b := 9) (by omega) (by omega)
  have hone : field (one (among '1' '9')) 'T' 't' (twoDigits n ++ 'T' :: rest) = [] :=
    field_one (by decide)
  have hblank : two (fun c => if c = ' ' then some 0 else none) (among '1' '9')
      (twoDigits n ++ 'T' :: rest) = [] := by
    apply two_none
    have hn : n / 10 < 10 := by omega
    interval_cases n / 10 <;> decide
  simp only [day, field_orElse, hthirty, htwenty, hfew, hone, field_nil hblank]
  obtain hn | hn | hn : n < 10 ∨ (10 ≤ n ∧ n < 30) ∨ 30 ≤ n := by omega
  · rw [if_neg (by omega), if_neg (by omega), if_pos (by omega)]
    rfl
  · rw [if_neg (by omega), if_pos (by omega), if_neg (by omega)]
    rfl
  · rw [if_pos (by omega), if_neg (by omega), if_neg (by omega)]
    rfl

theorem field_hour (h : n < 24) :
    field (hour py) ':' ':' (twoDigits n ++ ':' :: rest) = [(n, rest)] := by
  have htwenty : field (two (among '2' '2') (among '0' '3')) ':' ':' (twoDigits n ++ ':' :: rest) =
      if 2 ≤ n / 10 ∧ n / 10 ≤ 2 then [(n, rest)] else [] :=
    field_two (a := 2) (b := 2) (by omega) (by omega) (by omega)
      fun _ => ones_among (a := 0) (b := 3) (by omega) (by omega)
  have hfew : field (two (among '0' '1') py.decimal) ':' ':' (twoDigits n ++ ':' :: rest) =
      if 0 ≤ n / 10 ∧ n / 10 ≤ 1 then [(n, rest)] else [] :=
    field_two (a := 0) (b := 1) (by omega) (by omega) (by omega) fun _ => decimal_ones
  have hone : field (one py.decimal) ':' ':' (twoDigits n ++ ':' :: rest) = [] :=
    field_one (by decide)
  simp only [hour, field_orElse, htwenty, hfew, hone]
  obtain hn | hn : n < 20 ∨ 20 ≤ n := by omega
  · rw [if_neg (by omega), if_pos (by omega)]
    rfl
  · rw [if_pos (by omega), if_neg (by omega)]
    rfl

/-- The minutes end the text, so their first digit is a match too, but a later one. -/
theorem minute_digits (py : Runtime) (h : n < 60) :
    ∃ later, minute py (twoDigits n ++ rest) = (n, rest) :: later := by
  have hamong := among_digitChar (n := n / 10) (a := 0) (b := 5) (by omega) (by omega) (by omega)
  rw [if_pos (by omega)] at hamong
  have htwo : two (among '0' '5') py.decimal (twoDigits n ++ rest) = [(n, rest)] :=
    two_twoDigits hamong decimal_ones
  refine ⟨one py.decimal (twoDigits n ++ rest), ?_⟩
  rw [minute, orElse, htwo]
  rfl

end Matcher

/-- `YYYY-MM-DDTHH:MM` -/
def Fields.isoText (f : Fields) : Str :=
  twoDigits (f.year / 100) ++ (twoDigits (f.year % 100) ++ '-' :: (twoDigits f.month ++
    '-' :: (twoDigits f.day ++ 'T' :: (twoDigits f.hour ++ ':' :: (twoDigits f.minute ++ [])))))

theorem isoMinutes_isoText (py : Runtime) {f : Fields} (h : f.Valid) :
    ∃ later, Matcher.isoMinutes py f.isoText = (f, []) :: later := by
  obtain ⟨⟨-, hyear, hmonth, hmonth', hday, hday'⟩, hhour, hminute⟩ := h
  have hday' := hday'.trans (Calendar.daysInMonth_le hmonth hmonth')
  obtain ⟨later, hlater⟩ : ∃ later, Matcher.minute py (twoDigits f.minute ++ []) =
      (f.minute, []) :: later := Matcher.minute_digits py hminute
  refine ⟨later.flatMap fun r => [(⟨f.year, f.month, f.day, f.hour, r.1⟩, r.2)], ?_⟩
  simp only [Matcher.isoMinutes, Matcher.andThen, Fields.isoText,
    Matcher.field_found (Matcher.year_digits (Nat.lt_succ_of_le hyear)),
    Matcher.field_month hmonth hmonth', Matcher.field_day hday hday', Matcher.field_hour hhour,
    hlater, List.flatMap_singleton]
  rfl

theorem strptime_isoText {py : Runtime} {f : Fields} (h : f.Valid) :
    strptime (Matcher.isoMinutes py) (.str f.isoText) = DateTime.ofFields f := by
  obtain ⟨later, hlater⟩ := isoMinutes_isoText py h
  rw [strptime, hlater]
  rfl

/-! ### The text of a time -/

/-- The whole minutes since the start of year 1. -/
def DateTime.minutes (t : DateTime) : ℕ := (t.microseconds / microsecondsPerMinute).toNat

theorem digitChar_inj {m n : ℕ} (hm : m < 10) (hn : n < 10)
    (h : Nat.digitChar m = Nat.digitChar n) : m = n := by
  have hcode := congrArg Char.toNat h
  rw [Nat.toNat_digitChar_of_lt_ten hm, Nat.toNat_digitChar_of_lt_ten hn] at hcode
  omega

theorem twoDigits_inj {m n : ℕ} (hm : m < 100) (hn : n < 100) (h : twoDigits m = twoDigits n) :
    m = n := by
  obtain ⟨htens, hones⟩ : Nat.digitChar (m / 10) = Nat.digitChar (n / 10) ∧
      Nat.digitChar (m % 10) = Nat.digitChar (n % 10) := by simpa [twoDigits] using h
  have htens := digitChar_inj (by omega) (by omega) htens
  have hones := digitChar_inj (by omega) (by omega) hones
  omega

theorem weekday_inj {m n : ℕ} (hm : m < 7) (hn : n < 7)
    (h : weekdays.getD m [] = weekdays.getD n []) : m = n := by
  interval_cases m <;> interval_cases n <;> first | rfl | exact absurd h (by decide)

/-- `%p` of an hour. -/
def halfOfDay (hour : ℕ) : Str := if hour < 12 then text "AM" else text "PM"

theorem length_halfOfDay (hour : ℕ) : (halfOfDay hour).length = 2 := by
  unfold halfOfDay
  split <;> rfl

theorem halfOfDay_eq_am {hour : ℕ} : halfOfDay hour = text "AM" ↔ hour < 12 := by
  have hne : text "PM" ≠ text "AM" := by decide
  by_cases h : hour < 12
  · simp [halfOfDay, h]
  · simp [halfOfDay, h, hne]

theorem strftime_eq (t : DateTime) : t.strftime =
    twoDigits ((t.minutes / 60 % 24 + 11) % 12 + 1) ++ text ":" ++ twoDigits (t.minutes % 60) ++
      halfOfDay (t.minutes / 60 % 24) ++ text " " ++ weekdays.getD (t.minutes / 1440 % 7) [] :=
  rfl

/-- The text shows the minute of the week, and nothing else. -/
theorem strftime_eq_iff {t u : DateTime} :
    t.strftime = u.strftime ↔ t.minutes % 10080 = u.minutes % 10080 := by
  rw [strftime_eq, strftime_eq]
  constructor
  · intro h
    simp only [List.append_assoc] at h
    obtain ⟨hhour, h⟩ := List.append_inj h rfl
    obtain ⟨-, h⟩ := List.append_inj h rfl
    obtain ⟨hminute, h⟩ := List.append_inj h rfl
    obtain ⟨hhalf, h⟩ := List.append_inj h (by simp only [length_halfOfDay])
    obtain ⟨-, hday⟩ := List.append_inj h rfl
    have hhour := twoDigits_inj (by omega) (by omega) hhour
    have hminute := twoDigits_inj (by omega) (by omega) hminute
    have hhalf : t.minutes / 60 % 24 < 12 ↔ u.minutes / 60 % 24 < 12 := by
      rw [← halfOfDay_eq_am, hhalf, halfOfDay_eq_am]
    have hday := weekday_inj (by omega) (by omega) hday
    omega
  · intro h
    have hhour : t.minutes / 60 % 24 = u.minutes / 60 % 24 := by omega
    have hminute : t.minutes % 60 = u.minutes % 60 := by omega
    have hday : t.minutes / 1440 % 7 = u.minutes / 1440 % 7 := by omega
    rw [hhour, hminute, hday]

end Python
