import HomeConfig.Library.Upcoming
import HomeConfig.Tidespy.Sensor

/-! `next_tide` returns the earliest turn of a kind that is still to come, for a list in
order of time and a clock that does not go back. -/
namespace Tidespy

open Python

variable {py : Runtime} {highOrLow : HighOrLow} {clock : ℕ → DateTime}

/-! ### The search -/

/-- The tests of the generator and of the loop. -/
def upcoming (py : Runtime) (highOrLow : HighOrLow) (clock : ℕ → DateTime) (n : ℕ) (turn : Json) :
    Result Bool := do
  let timestamp ← turnTimestamp py turn
  if (clock n).microseconds < timestamp.microseconds then
    let horL ← turn.get (text "HorL") .null
    return horL.equalsStr highOrLow.code
  else return false

/-- The timestamp of the turn that was found. -/
def timestampOf (py : Runtime) : Option Json → Result (Option DateTime)
  | none => .ok none
  | some turn => do
    let timestamp ← turnTimestamp py turn
    return some timestamp

theorem nextUpcoming_eq (turns : List Json) :
    nextUpcoming py highOrLow clock turns =
      Search.first (upcoming py highOrLow clock) turns >>= timestampOf py := by
  induction turns generalizing clock with
  | nil => rfl
  | cons turn rest ih =>
    have hshift : (fun n => upcoming py highOrLow clock (n + 1)) =
        upcoming py highOrLow fun n => clock (n + 1) := rfl
    rw [nextUpcoming, Search.first, ih, hshift]
    generalize Search.first (upcoming py highOrLow fun n => clock (n + 1)) rest = found
    rcases hturn : turnTimestamp py turn with e | timestamp
    · simp [upcoming, hturn]
    · by_cases hlt : (clock 0).microseconds < timestamp.microseconds
      · rcases hget : turn.get (text "HorL") .null with e | horL
        · simp [upcoming, hturn, hlt, hget]
        · by_cases hequals : horL.equalsStr highOrLow.code <;>
            simp [upcoming, timestampOf, hturn, hlt, hget, hequals]
      · simp [upcoming, hturn, hlt]

/-! ### A timetable -/

/-- `Date` and `Minute` are there and give this time. -/
def TurnAt (py : Runtime) (turn : Dict) (time : DateTime) : Prop :=
  ∃ date day minute span, Dict.get turn (text "Date") = some date ∧
    strptime (Matcher.basicDate py) date = .ok day ∧
    Dict.get turn (text "Minute") = some minute ∧ timedeltaMinutes minute = .ok span ∧
    day.add span = .ok time

/-- Turns with the times that their `Date` and `Minute` give, in order. -/
structure Timetable (py : Runtime) where
  turns : List (Json × DateTime)
  timed : ∀ t ∈ turns, ∃ d, t.1 = .dict d ∧ TurnAt py d t.2
  chronological : turns.Pairwise fun t u => t.2.microseconds ≤ u.2.microseconds

/-- A high tide has an H in `HorL`, a low tide an L. -/
def OfKind (highOrLow : HighOrLow) (turn : Json) : Prop :=
  ∃ d, turn = .dict d ∧ Dict.get d (text "HorL") = some (.str (match highOrLow with
    | .high => text "H"
    | .low => text "L"))

theorem ofKind_iff {highOrLow : HighOrLow} {turn : Json} : OfKind highOrLow turn ↔
    ∃ d, turn = .dict d ∧ Dict.get d (text "HorL") = some (.str highOrLow.code) := by
  cases highOrLow <;> rfl

theorem dict_of_subscript {value result : Json} {key : Str}
    (h : value.subscript key = .ok result) : ∃ d, value = .dict d := by
  cases value with
  | dict d => exact ⟨d, rfl⟩
  | _ => simp [Json.subscript] at h

/-- Only a dictionary has a timestamp. -/
theorem dict_of_turnTimestamp {turn : Json} {time : DateTime}
    (h : turnTimestamp py turn = .ok time) : ∃ d, turn = .dict d := by
  rcases hdate : turn.subscript (text "Date") with e | date
  · simp [turnTimestamp, hdate] at h
  · exact dict_of_subscript hdate

theorem subscript_eq_ok {d : Dict} {key : Str} {value : Json} :
    (Json.dict d).subscript key = .ok value ↔ Dict.get d key = some value := by
  rcases h : Dict.get d key with _ | v <;> simp [Json.subscript, h]

theorem turnTimestamp_eq_ok {turn : Json} {time : DateTime} :
    turnTimestamp py turn = .ok time ↔ ∃ d, turn = .dict d ∧ TurnAt py d time := by
  constructor
  · intro h
    obtain ⟨d, rfl⟩ := dict_of_turnTimestamp h
    refine ⟨d, rfl, ?_⟩
    simp only [turnTimestamp, bind_eq_ok, subscript_eq_ok] at h
    obtain ⟨date, hdate, day, hday, minute, hminute, span, hspan, hadd⟩ := h
    exact ⟨date, day, minute, span, hdate, hday, hminute, hspan, hadd⟩
  · rintro ⟨d, rfl, date, day, minute, span, hdate, hday, hminute, hspan, hadd⟩
    simp only [turnTimestamp, bind_eq_ok, subscript_eq_ok]
    exact ⟨date, hdate, day, hday, minute, hminute, span, hspan, hadd⟩

theorem Timetable.timestamp (table : Timetable py) {t : Json × DateTime} (ht : t ∈ table.turns) :
    turnTimestamp py t.1 = .ok t.2 :=
  turnTimestamp_eq_ok.2 (table.timed t ht)

theorem equalsStr_getD {value : Option Json} {s : Str} :
    (value.getD .null).equalsStr s = true ↔ value = some (.str s) := by
  rcases value with _ | v
  · simp [Json.equalsStr]
  · cases v <;> simp [Json.equalsStr]

/-- On a turn with a timestamp the two tests do not fail. -/
theorem upcoming_of_timed (highOrLow : HighOrLow) (clock : ℕ → DateTime) {turn : Json}
    {time : DateTime} (h : turnTimestamp py turn = .ok time) (n : ℕ) :
    ∃ b, upcoming py highOrLow clock n turn = .ok b ∧
      (b = true ↔ (clock n).microseconds < time.microseconds ∧ OfKind highOrLow turn) := by
  obtain ⟨d, rfl⟩ := dict_of_turnTimestamp h
  by_cases hlt : (clock n).microseconds < time.microseconds
  · refine ⟨((Dict.get d (text "HorL")).getD .null).equalsStr highOrLow.code, ?_, ?_⟩
    · simp [upcoming, h, hlt]
    · simp [equalsStr_getD, ofKind_iff, hlt]
  · refine ⟨false, ?_, ?_⟩
    · simp [upcoming, h, hlt]
    · simp [hlt]

/-! ### The turn that is found -/

variable {table : Timetable py}

/-- A turn and its time, still ahead of the clock and of the kind. -/
abbrev Ahead (highOrLow : HighOrLow) (clock : ℕ → DateTime) : ℕ → Json × DateTime → Prop :=
  Upcoming.Ahead (fun t => t.2.microseconds) (fun t => OfKind highOrLow t.1)
    fun n => (clock n).microseconds

theorem upcoming_iff {t : Json × DateTime} (ht : t ∈ table.turns) (n : ℕ) :
    (upcoming py highOrLow clock n t.1 = .ok true ↔ Ahead highOrLow clock n t) ∧
      (upcoming py highOrLow clock n t.1 = .ok false ↔ ¬ Ahead highOrLow clock n t) := by
  obtain ⟨b, hb, hiff⟩ := upcoming_of_timed highOrLow clock (table.timestamp ht) n
  rw [hb, Ahead, Upcoming.Ahead, ← hiff]
  cases b <;> simp

theorem first_eq_some_iff {turn : Json} :
    Search.first (upcoming py highOrLow clock) (table.turns.map Prod.fst) = .ok (some turn) ↔
      ∃ time i, Upcoming.Next (fun t => t.2.microseconds) (fun t => OfKind highOrLow t.1)
        (fun n => (clock n).microseconds) table.turns i (turn, time) := by
  rw [Search.first_eq_some]
  simp only [Search.first_map]
  constructor
  · rintro ⟨i, ⟨_, time⟩, rfl, h⟩
    exact ⟨time, i, h.imp (fun n t ht => (upcoming_iff ht n).1.1)
      fun n t ht => (upcoming_iff ht n).2.1⟩
  · rintro ⟨time, i, h⟩
    exact ⟨i, (turn, time), rfl, h.imp (fun n t ht => (upcoming_iff ht n).1.2)
      fun n t ht => (upcoming_iff ht n).2.2⟩

theorem first_eq_none_iff :
    Search.first (upcoming py highOrLow clock) (table.turns.map Prod.fst) = .ok none ↔
      Upcoming.Missed (fun t => t.2.microseconds) (fun t => OfKind highOrLow t.1)
        (fun n => (clock n).microseconds) table.turns := by
  rw [Search.first_eq_none, Search.exhausted_map]
  constructor
  · intro h
    exact h.imp fun n t ht => (upcoming_iff ht n).2.1
  · intro h
    exact h.imp fun n t ht => (upcoming_iff ht n).2.2

/-- The earliest turn of the kind that is still to come at the time when it is looked at: the earlier
ones of the kind were past when they were looked at, and are past now. Or nothing, when each turn of the
kind was past as it was looked at. -/
def IsNext (table : Timetable py) (highOrLow : HighOrLow) (clock : ℕ → DateTime) :
    Option DateTime → Prop
  | some time => ∃ i turn, table.turns[i]? = some (turn, time) ∧ OfKind highOrLow turn ∧
      (clock i).microseconds < time.microseconds ∧
      ∀ j t, table.turns[j]? = some t → OfKind highOrLow t.1 →
        t.2.microseconds < time.microseconds →
        t.2.microseconds ≤ (clock j).microseconds ∧ t.2.microseconds ≤ (clock i).microseconds
  | none => ∀ i t, table.turns[i]? = some t → OfKind highOrLow t.1 →
      t.2.microseconds ≤ (clock i).microseconds

/-- The clock does not go back. -/
def Advancing (clock : ℕ → DateTime) : Prop :=
  ∀ m n, m ≤ n → (clock m).microseconds ≤ (clock n).microseconds

/-- The search takes a step through the timetable for each reading of the clock. -/
theorem nextUpcoming_isNext (hclock : Advancing clock) :
    ∃ result, nextUpcoming py highOrLow clock (table.turns.map Prod.fst) = .ok result ∧
      IsNext table highOrLow clock result := by
  rcases Search.first_or_exhausted (Ahead highOrLow clock) table.turns with
    ⟨i, ⟨turn, time⟩, hnext⟩ | hmissed
  · refine ⟨some time, ?_, i, turn, hnext.here, ?_⟩
    · rw [nextUpcoming_eq, first_eq_some_iff.2 ⟨time, i, hnext⟩]
      have htime : turnTimestamp py turn = .ok time := table.timestamp hnext.mem
      simp [timestampOf, htime]
    · have hahead := Upcoming.Next.ahead hnext
      have hmono : Monotone fun n => (clock n).microseconds := fun m n => hclock m n
      exact ⟨hahead.2, hahead.1, fun j t hj hkind hlt =>
        Upcoming.Next.earlier_past hnext hmono table.chronological hj hkind hlt⟩
  · refine ⟨none, ?_, fun i t ht hkind => Upcoming.Missed.past hmissed ht hkind⟩
    rw [nextUpcoming_eq, first_eq_none_iff.2 hmissed]
    rfl

/-- With a turn of the kind after the day, and a clock within the day, there is a next one. -/
theorem IsNext.ne_none {result : Option DateTime} {deadline : ℤ}
    (h : IsNext table highOrLow clock result)
    (hclock : ∀ n < table.turns.length, (clock n).microseconds < deadline)
    (hlate : ∃ t ∈ table.turns, OfKind highOrLow t.1 ∧ deadline ≤ t.2.microseconds) :
    result ≠ none := by
  rintro rfl
  have hmissed : Upcoming.Missed (fun t : Json × DateTime => t.2.microseconds)
      (fun t => OfKind highOrLow t.1) (fun n => (clock n).microseconds) table.turns :=
    fun i t ht => Upcoming.not_ahead.2 (h i t ht)
  exact Upcoming.not_missed hclock hlate hmissed

/-- The sensor shows the next tide. It always has one within the day that starts at
`midnight`, when the list has a turn of the kind on the day after. -/
theorem nextTide_isNext {data : Json}
    (hturns : data.get (text "Turns") .null = .ok (.list (table.turns.map Prod.fst)))
    (hclock : Advancing clock) :
    ∃ result, nextTide py data highOrLow clock = .ok result ∧
      IsNext table highOrLow clock result ∧
      ∀ midnight : ℤ,
        (∀ n < table.turns.length, (clock n).microseconds < midnight + microsecondsPerDay) →
        (∃ t ∈ table.turns, OfKind highOrLow t.1 ∧
          midnight + microsecondsPerDay ≤ t.2.microseconds ∧
          t.2.microseconds < midnight + 2 * microsecondsPerDay) →
        result ≠ none := by
  obtain ⟨result, hresult, hnext⟩ :
      ∃ result, nextUpcoming py highOrLow clock (table.turns.map Prod.fst) = .ok result ∧
        IsNext table highOrLow clock result := nextUpcoming_isNext hclock
  refine ⟨result, ?_, hnext, ?_⟩
  · rw [nextTide, hturns]
    exact hresult
  · rintro midnight hday ⟨t, ht, hkind, hle, -⟩
    exact hnext.ne_none hday ⟨t, ht, hkind, hle⟩

/-! ### Two days of tides -/

def tideTurn (date : String) (minute : ℤ) (horL : String) : Json :=
  .dict [(text "Date", .str (text date)), (text "Minute", .int minute), (text "HorL", .str (text horL))]

def dateTime (day minute : ℕ) (h : day < 3652059 ∧ minute < 1440) : DateTime where
  microseconds := day * microsecondsPerDay + minute * microsecondsPerMinute
  lower := by
    unfold microsecondsPerDay microsecondsPerMinute
    omega
  upper := by
    unfold endOfTime microsecondsPerDay microsecondsPerMinute
    omega

/-- High tides on the first and on the second of June. -/
def twoDays : Timetable .ascii where
  turns := [(tideTurn "20190601" 400 "H", dateTime 737210 400 (by decide)),
    (tideTurn "20190602" 430 "H", dateTime 737211 430 (by decide))]
  timed := by
    simp only [← turnTimestamp_eq_ok]
    simp
    decide
  chronological := by simp; decide

def twoDaysData : Json := .dict [(text "Turns", .list (twoDays.turns.map Prod.fst))]

/-- One minute goes by between the first two looks. -/
def passingClock (n : ℕ) : DateTime :=
  if n = 0 then dateTime 737210 401 (by decide) else dateTime 737210 402 (by decide)

theorem passingClock_advancing : Advancing passingClock := by
  intro m n hmn
  unfold passingClock
  split
  · split
    · exact le_rfl
    · decide
  · rw [if_neg (by omega)]

theorem nextTide_isNext_twoDays :
    ∃ result, nextTide .ascii twoDaysData .high passingClock = .ok result ∧
      IsNext twoDays .high passingClock result ∧ result ≠ none := by
  have hturns : twoDaysData.get (text "Turns") .null = .ok (.list (twoDays.turns.map Prod.fst)) := rfl
  obtain ⟨result, hresult, hnext, hday⟩ := nextTide_isNext hturns passingClock_advancing
  refine ⟨result, hresult, hnext, hday (737210 * microsecondsPerDay) ?_ ?_⟩
  · intro n _
    unfold passingClock
    split
    · decide
    · decide
  · exact ⟨_, List.mem_cons_of_mem _ (List.mem_singleton_self _), ⟨_, rfl, rfl⟩, by decide, by decide⟩

end Tidespy
