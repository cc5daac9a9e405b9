import HomeConfig.Metlink.Tolerance
import HomeConfig.Tidespy.Tolerance

/-! The answers of the two services, any objects of JSON, and the properties of the sensors. -/
namespace Transport

open Python Metlink Tidespy

variable {py : Runtime} {number route : Str} {stop tides : Dict} {highOrLow : HighOrLow}
  {clock : ℕ → DateTime}

/-- No property raises, and the unit goes with the state, exactly when both answers are
readable where the sensors look at them. -/
theorem everyProperty_returns_iff :
    (Tolerates py (sensorOf number route stop) ∧
      ∃ state, TidespySensor.state py ⟨highOrLow, .dict tides⟩ clock = .ok state) ↔
    StopReadable py route stop ∧ TurnsReadable py highOrLow clock tides := by
  rw [tolerates_iff, state_returns]

/-! ### An error object -/

def refusal : Dict := [(text "Message", .str (text "rate limit exceeded"))]

/-- Neither sensor has a state when the services refuse. -/
theorem refusal_raises :
    (¬ Tolerates .ascii (sensorOf (text "1000") (text "1") refusal)) ∧
      ¬ ∃ state, TidespySensor.state .ascii ⟨.high, .dict refusal⟩ passingClock = .ok state := by
  rw [tolerates_iff, state_returns]
  constructor
  · rintro ⟨-, items, found, hitems, -⟩
    have hmissing : entry refusal "Services" = .null := rfl
    simp [hmissing, Json.iterate] at hitems
  · rintro ⟨turns, hturns, -⟩
    have hmissing : (Dict.get refusal (text "Turns")).getD .null = .null := rfl
    simp [hmissing, Json.iterate] at hturns

end Transport
