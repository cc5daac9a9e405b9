import HomeConfig.Python.DateTime

/-! The tide sensor: the next high or low tide of a place. -/
namespace Tidespy

open Python

inductive HighOrLow where
  | high
  | low
deriving DecidableEq, Repr

/-- The first letter of `highOrLow`. -/
def HighOrLow.code : HighOrLow → Str
  | .high => text "H"
  | .low => text "L"

variable (py : Runtime)

def turnTimestamp (turn : Json) : Result DateTime := do
  let date ← turn.subscript (text "Date")
  let day ← strptime (Matcher.basicDate py) date
  let minute ← turn.subscript (text "Minute")
  let span ← timedeltaMinutes minute
  day.add span

/-- The loop of `next_tide` over `upcoming_turns`. The generator compares a turn with the
clock when the loop asks for it; `clock` is what `datetime.now()` returns from then on. -/
def nextUpcoming (highOrLow : HighOrLow) : (ℕ → DateTime) → List Json → Result (Option DateTime)
  | _, [] => .ok none
  | clock, turn :: rest => do
    let timestamp ← turnTimestamp py turn
    if (clock 0).microseconds < timestamp.microseconds then
      let horL ← turn.get (text "HorL") .null
      if horL.equalsStr highOrLow.code then
        let timestamp ← turnTimestamp py turn
        return some timestamp
      else nextUpcoming highOrLow (fun n => clock (n + 1)) rest
    else nextUpcoming highOrLow (fun n => clock (n + 1)) rest

def nextTide (data : Json) (highOrLow : HighOrLow) (clock : ℕ → DateTime) :
    Result (Option DateTime) := do
  let turns ← data.get (text "Turns") .null
  let turns ← turns.iterate
  nextUpcoming py highOrLow clock turns

/-- The sensor, with what the last update has fetched. -/
structure TidespySensor where
  highOrLow : HighOrLow
  tideInfo : Json

def TidespySensor.state (sensor : TidespySensor) (clock : ℕ → DateTime) :
    Result (Option DateTime) :=
  nextTide py sensor.tideInfo sensor.highOrLow clock

end Tidespy
