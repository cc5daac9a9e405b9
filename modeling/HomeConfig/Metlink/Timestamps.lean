import HomeConfig.Metlink.Sensor
import HomeConfig.Python.Texts

/-! `pretty_timestamp` on timestamps with a UTC offset. It looks for the sign of the offset
at position 18, where the last digit of the seconds stands, and never applies one. -/
namespace Metlink

open Python

/-- `YYYY-MM-DDTHH:MM:SS` with `+hh:mm` or `-hh:mm`. -/
structure Timestamp where
  fields : Fields
  second : ℕ
  negative : Bool
  offsetHours : ℕ
  offsetMinutes : ℕ
  valid : fields.Valid
  second_lt : second < 60
  offsetHours_lt : offsetHours < 100
  offsetMinutes_lt : offsetMinutes < 60

namespace Timestamp

variable (t : Timestamp)

def text : Str :=
  t.fields.isoText ++ (':' :: (twoDigits t.second ++ ((if t.negative then '-' else '+') ::
    (twoDigits t.offsetHours ++ ':' :: twoDigits t.offsetMinutes))))

/-- Minutes ahead of UTC. -/
def offset : ℤ :=
  (if t.negative then -1 else 1) * (t.offsetHours * 60 + t.offsetMinutes : ℤ)

/-- The seconds from the start of year 1, UTC. -/
def instant : ℤ := (t.fields.minutes - t.offset) * 60 + t.second

theorem take_text : t.text.take 16 = t.fields.isoText := List.take_left' rfl

/-- The character that is taken for the sign. -/
theorem text_sign : t.text[18]? = some (Nat.digitChar (t.second % 10)) := by
  have hlength : t.fields.isoText.length = 16 := rfl
  rw [text, List.getElem?_append_right (by omega), hlength]
  rfl

end Timestamp

theorem digitChar_ne_sign {n : ℕ} (h : n < 10) :
    Nat.digitChar n ≠ '+' ∧ Nat.digitChar n ≠ '-' := by
  interval_cases n <;> decide

theorem ofFields_valid {f : Fields} (h : f.Valid) :
    ∃ t, DateTime.ofFields f = .ok t ∧ (t.minutes : ℤ) = f.minutes := by
  have hbounds := h.bounds
  refine ⟨_, dif_pos h, ?_⟩
  have hminutes : f.minutes * microsecondsPerMinute / microsecondsPerMinute = f.minutes :=
    Int.mul_ediv_cancel _ (by decide)
  rw [DateTime.minutes, hminutes, Int.toNat_of_nonneg hbounds.1]

variable {py : Runtime}

/-- The text shows the fields as they are written. -/
theorem prettyTimestamp_text (py : Runtime) (t : Timestamp) : ∃ time : DateTime,
    prettyTimestamp py (.str t.text) = .ok time.strftime ∧ (time.minutes : ℤ) = t.fields.minutes := by
  obtain ⟨time, htime, hminutes⟩ := ofFields_valid t.valid
  refine ⟨time, ?_, hminutes⟩
  obtain ⟨hplus, hminus⟩ := digitChar_ne_sign (Nat.mod_lt t.second (by norm_num : 10 > 0))
  simp only [prettyTimestamp, t.take_text, strptime_isoText t.valid, htime, t.text_sign]
  rfl

/-- The two texts are the same when the written times agree in the minute of the week. -/
theorem same_text_iff (a b : Timestamp) :
    (∃ s, prettyTimestamp py (.str a.text) = .ok s ∧ prettyTimestamp py (.str b.text) = .ok s) ↔
      (10080 : ℤ) ∣ a.fields.minutes - b.fields.minutes := by
  obtain ⟨t, ht, htime⟩ := prettyTimestamp_text py a
  obtain ⟨u, hu, hutime⟩ := prettyTimestamp_text py b
  have hweek : t.minutes % 10080 = u.minutes % 10080 ↔
      (10080 : ℤ) ∣ a.fields.minutes - b.fields.minutes := by omega
  rw [ht, hu, ← hweek, ← strftime_eq_iff]
  constructor
  · rintro ⟨s, hs, hs'⟩
    exact (Except.ok.inj hs).trans (Except.ok.inj hs').symm
  · intro h
    exact ⟨t.strftime, rfl, by rw [h]⟩

/-- Written times of one instant differ as the offsets do. -/
theorem minutes_sub_eq {a b : Timestamp} (h : a.instant = b.instant) :
    a.fields.minutes - b.fields.minutes = a.offset - b.offset := by
  have ha := a.second_lt
  have hb := b.second_lt
  unfold Timestamp.instant at h
  omega

/-- Two timestamps of one instant give one text when their offsets are whole weeks apart. -/
theorem prettyTimestamp_same_iff {a b : Timestamp} (h : a.instant = b.instant) :
    (∃ s, prettyTimestamp py (.str a.text) = .ok s ∧ prettyTimestamp py (.str b.text) = .ok s) ↔
      (10080 : ℤ) ∣ a.offset - b.offset := by
  rw [same_text_iff, minutes_sub_eq h]

/-- Offsets of places on earth are whole weeks apart only when they are equal. -/
theorem weeks_apart_iff {a b : Timestamp} (ha : a.offsetHours < 24) (hb : b.offsetHours < 24) :
    (10080 : ℤ) ∣ a.offset - b.offset ↔ a.offset = b.offset := by
  have ham := a.offsetMinutes_lt
  have hbm := b.offsetMinutes_lt
  unfold Timestamp.offset
  split <;> split <;> omega

/-! ### Noon in Wellington -/

def noonInWellington : Timestamp where
  fields := ⟨2019, 6, 1, 12, 0⟩
  second := 0
  negative := false
  offsetHours := 12
  offsetMinutes := 0
  valid := by decide
  second_lt := by decide
  offsetHours_lt := by decide
  offsetMinutes_lt := by decide

/-- The same instant in UTC. -/
def midnightInUtc : Timestamp where
  fields := ⟨2019, 6, 1, 0, 0⟩
  second := 0
  negative := false
  offsetHours := 0
  offsetMinutes := 0
  valid := by decide
  second_lt := by decide
  offsetHours_lt := by decide
  offsetMinutes_lt := by decide

theorem instant_noonInWellington : noonInWellington.instant = midnightInUtc.instant := by decide

theorem prettyTimestamp_same_iff_noonInWellington :
    (∃ s, prettyTimestamp .ascii (.str noonInWellington.text) = .ok s ∧
      prettyTimestamp .ascii (.str midnightInUtc.text) = .ok s) ↔
      (10080 : ℤ) ∣ noonInWellington.offset - midnightInUtc.offset :=
  prettyTimestamp_same_iff instant_noonInWellington

/-- `12:00PM Sat` and `12:00AM Sat`. -/
theorem noonInWellington_twelve_hours_off :
    noonInWellington.instant = midnightInUtc.instant ∧
      ¬ ∃ s, prettyTimestamp .ascii (.str noonInWellington.text) = .ok s ∧
        prettyTimestamp .ascii (.str midnightInUtc.text) = .ok s := by
  refine ⟨instant_noonInWellington, ?_⟩
  rw [same_text_iff]
  decide

end Metlink
