import HomeConfig.Tidespy.NextTide

/-! Which answers of the service the sensor can show without raising. -/
namespace Tidespy

open Python

variable {py : Runtime} {highOrLow : HighOrLow} {clock : ℕ → DateTime} {n : ℕ}

/-- A turn with a time, of which `p` holds. -/
def Timed (py : Runtime) (p : DateTime → Json → Prop) (turn : Json) : Prop :=
  ∃ d time, turn = .dict d ∧ TurnAt py d time ∧ p time turn

/-- Still ahead of the clock, and of the kind. -/
def Wanted (highOrLow : HighOrLow) (now time : DateTime) (turn : Json) : Prop :=
  now.microseconds < time.microseconds ∧ OfKind highOrLow turn

theorem timed_iff {p : DateTime → Json → Prop} {turn : Json} :
    Timed py p turn ↔ ∃ time, turnTimestamp py turn = .ok time ∧ p time turn := by
  constructor
  · rintro ⟨d, time, rfl, hat, hp⟩
    exact ⟨time, turnTimestamp_eq_ok.2 ⟨d, rfl, hat⟩, hp⟩
  · rintro ⟨time, htime, hp⟩
    obtain ⟨d, rfl, hat⟩ := turnTimestamp_eq_ok.1 htime
    exact ⟨d, time, rfl, hat, hp⟩

theorem upcoming_eq_ok {turn : Json} :
    (upcoming py highOrLow clock n turn = .ok true ↔
      Timed py (Wanted highOrLow (clock n)) turn) ∧
    (upcoming py highOrLow clock n turn = .ok false ↔
      Timed py (fun time turn => ¬ Wanted highOrLow (clock n) time turn) turn) := by
  rw [timed_iff, timed_iff]
  rcases htime : turnTimestamp py turn with e | time
  · simp [upcoming, htime]
  · obtain ⟨b, hb, hiff⟩ := upcoming_of_timed highOrLow clock htime n
    simp only [hb, Except.ok.injEq, exists_eq_left', Wanted, ← hiff]
    cases b <;> simp

/-- Each turn has a time, up to the first one that is still ahead of the clock and of the
kind, if there is one. -/
def Examined (py : Runtime) (highOrLow : HighOrLow) (clock : ℕ → DateTime) (turns : List Json) :
    Prop :=
  (∃ i turn, Search.First (fun n => Timed py (Wanted highOrLow (clock n)))
      (fun n => Timed py fun time turn => ¬ Wanted highOrLow (clock n) time turn) turns i turn) ∨
    Search.Exhausted (fun n => Timed py fun time turn => ¬ Wanted highOrLow (clock n) time turn)
      turns

/-- There is a list of turns, and the turns that the sensor looks at have times. -/
def TurnsReadable (py : Runtime) (highOrLow : HighOrLow) (clock : ℕ → DateTime) (data : Dict) :
    Prop :=
  ∃ turns, ((Dict.get data (text "Turns")).getD .null).iterate = .ok turns ∧
    Examined py highOrLow clock turns

theorem first_returns {turns : List Json} :
    (∃ found, Search.first (upcoming py highOrLow clock) turns = .ok found) ↔
      Examined py highOrLow clock turns := by
  rw [Search.first_returns_iff]
  simp only [upcoming_eq_ok, Examined]

theorem nextUpcoming_returns {turns : List Json} :
    (∃ state, nextUpcoming py highOrLow clock turns = .ok state) ↔
      ∃ found, Search.first (upcoming py highOrLow clock) turns = .ok found := by
  simp only [nextUpcoming_eq, bind_eq_ok]
  constructor
  · rintro ⟨state, found, hfound, -⟩
    exact ⟨found, hfound⟩
  · rintro ⟨_ | turn, hfound⟩
    · exact ⟨none, none, hfound, rfl⟩
    · obtain ⟨i, hi⟩ := Search.first_eq_some.1 hfound
      obtain ⟨time, htime, -⟩ := timed_iff.1 (upcoming_eq_ok.1.1 hi.accepted)
      refine ⟨some time, some turn, hfound, ?_⟩
      simp [timestampOf, htime]

/-- The sensor has a state exactly when the answer is readable. -/
theorem state_returns {data : Dict} :
    (∃ state, TidespySensor.state py ⟨highOrLow, .dict data⟩ clock = .ok state) ↔
      TurnsReadable py highOrLow clock data := by
  simp only [TidespySensor.state, nextTide, Json.get_dict, bind_eq_ok, Except.ok.injEq,
    exists_eq_left']
  constructor
  · rintro ⟨state, turns, hturns, hstate⟩
    exact ⟨turns, hturns, first_returns.1 (nextUpcoming_returns.1 ⟨state, hstate⟩)⟩
  · rintro ⟨turns, hturns, hexamined⟩
    obtain ⟨state, hstate⟩ := nextUpcoming_returns.2 (first_returns.2 hexamined)
    exact ⟨state, turns, hturns, hstate⟩

end Tidespy
