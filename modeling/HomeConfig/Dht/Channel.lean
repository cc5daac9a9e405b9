import HomeConfig.Arduino.Pin
import HomeConfig.MySensors.Core

/-! One reported quantity of the DHT nodes: the remembered reading and the counter of
reads without a report. Temperature and humidity run the same code. -/
namespace Dht

open Arduino MySensors

def forceUpdateNReads : Byte := 10#8

def sensorTempOffset : ℤ := 0

/-- `lastTemp` and `nNoUpdatesTemp`, or `lastHum` and `nNoUpdatesHum`; floats are
kept as their bit patterns. -/
structure Channel where
  last : BitVec 32
  nNoUpdates : Byte
deriving DecidableEq, Repr

/-- The zero-initialised globals. -/
def Channel.boot : Channel := ⟨0#32, 0#8⟩

def toFahrenheit (celsius : BitVec 32) : BitVec 32 :=
  (Single.add (.mul (.ofRat (18 / 10)) (.ofBits celsius)) (.ofRat 32)).toBits

/-- The part of `loop` that handles one reading: a failed read does nothing, a new
value or the end of the silent period is sent after conversion, another read counts. -/
def Channel.poll (nodeId : Byte) (message : MyMessage) (convert : BitVec 32 → BitVec 32)
    (c : Channel) (reading : BitVec 32) : Channel × List (Effect Action) :=
  if Single.ofBits reading = .nan then (c, [])
  else if Single.ne (.ofBits reading) (.ofBits c.last) ∨ c.nNoUpdates = forceUpdateNReads then
    (⟨reading, 0#8⟩,
      (send (.registered nodeId) (message.setFloat (convert reading) 1#8)).map .transmit)
  else ({ c with nNoUpdates := c.nNoUpdates + 1#8 }, [])

/-- The conversion applied to a temperature before it is sent. -/
def convertTemperature (metric : Bool) (temperature : BitVec 32) : BitVec 32 :=
  let temperature := if metric then temperature else toFahrenheit temperature
  (Single.add (.ofBits temperature) (.ofRat sensorTempOffset)).toBits

variable {nodeId : Byte} {message : MyMessage} {convert : BitVec 32 → BitVec 32} {c : Channel}
  {reading : BitVec 32}

theorem Channel.poll_of_nan (h : Single.ofBits reading = .nan) :
    (c.poll nodeId message convert reading) = (c, []) := if_pos h

theorem Channel.poll_of_due (h : Single.ofBits reading ≠ .nan)
    (hdue : Single.ne (.ofBits reading) (.ofBits c.last) ∨ c.nNoUpdates = forceUpdateNReads) :
    c.poll nodeId message convert reading = (⟨reading, 0#8⟩,
      (send (.registered nodeId) (message.setFloat (convert reading) 1#8)).map .transmit) := by
  rw [Channel.poll, if_neg h, if_pos hdue]

theorem Channel.poll_of_not_due (h : Single.ofBits reading ≠ .nan)
    (hdue : ¬ (Single.ne (.ofBits reading) (.ofBits c.last) ∨ c.nNoUpdates = forceUpdateNReads)) :
    c.poll nodeId message convert reading = ({ c with nNoUpdates := c.nNoUpdates + 1#8 }, []) := by
  rw [Channel.poll, if_neg h, if_neg hdue]

/-- A poll sends nothing or one report of its own item, and does not act on a pin. -/
theorem Channel.poll_effects :
    acted (c.poll nodeId message convert reading).2 = [] ∧
      ∀ m ∈ sent (c.poll nodeId message convert reading).2,
        m.getCommand = cSet ∧ m.type = message.type ∧ m.sensor = message.sensor := by
  unfold Channel.poll
  split
  · simp
  · split
    · refine ⟨acted_map_transmit _, ?_⟩
      intro m hm
      rw [sent_map_transmit, send_registered, List.mem_singleton] at hm
      subst m
      exact ⟨getCommand_report, rfl, rfl⟩
    · simp

end Dht
