import HomeConfig.Arduino.Pin

/-! The parking sensor: a distance that stays the same for long enough switches the LEDs off. -/
namespace ParkingSensor

open Arduino

def alertLedPin : ℕ := 12
def okLedPin : ℕ := 13
def readFrequency : ℕ := 250
def stateOkMaxDistance : ℤ := 75
def stateOkMinDistance : ℤ := 50
def maxIdenticalReadings : ℤ := 100

inductive LedState where
  | none
  | alert
  | ok
deriving DecidableEq, Repr

/-- The globals, `int`s of sixteen bits. -/
structure Sensor where
  lastDistanceRead : BitVec 16
  identicalLastDistanceCount : BitVec 16
deriving DecidableEq, Repr

def Sensor.boot : Sensor := ⟨0#16, 0#16⟩

def setLedState : LedState → List Action
  | .none => [.digitalWrite alertLedPin false, .digitalWrite okLedPin false]
  | .alert => [.digitalWrite alertLedPin true, .digitalWrite okLedPin false]
  | .ok => [.digitalWrite alertLedPin false, .digitalWrite okLedPin true]

/-- The state that a new distance shows. -/
def stateOf (distance : BitVec 16) : LedState :=
  if distance.toInt ≤ stateOkMaxDistance ∧ stateOkMinDistance ≤ distance.toInt then .ok else .alert

/-- `delay` is a wait of the board. -/
def loop (s : Sensor) (distance : BitVec 16) : Sensor × List Action :=
  if distance = s.lastDistanceRead then
    let s := { s with identicalLastDistanceCount := s.identicalLastDistanceCount + 1#16 }
    (s, .wait readFrequency ::
      if maxIdenticalReadings ≤ s.identicalLastDistanceCount.toInt then setLedState .none else [])
  else (⟨distance, 0#16⟩, .wait readFrequency :: setLedState (stateOf distance))

/-- The sensor and what it has done. -/
structure Board where
  sensor : Sensor
  log : List Action
deriving DecidableEq, Repr

def Board.boot : Board := ⟨.boot, []⟩

def Board.step (b : Board) (distance : BitVec 16) : Board :=
  let r := loop b.sensor distance
  ⟨r.1, b.log ++ r.2⟩

/-- The board after these readings. -/
def after (readings : List (BitVec 16)) : Board := readings.foldl Board.step .boot

def LedState.levels : LedState → Bool × Bool
  | .none => (false, false)
  | .alert => (true, false)
  | .ok => (false, true)

/-- The levels of the two LEDs. -/
def Board.leds (b : Board) : Bool × Bool :=
  (level alertLedPin false b.log, level okLedPin false b.log)

def Board.Shows (b : Board) (state : LedState) : Prop := b.leds = state.levels

end ParkingSensor
