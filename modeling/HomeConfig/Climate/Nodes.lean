import HomeConfig.Climate.Carrier
import HomeConfig.GarageStation.Relay
import HomeConfig.RoofClimate.Sketch

/-! The two sketches with a DHT sensor as carriers of their temperature and humidity. -/
namespace Climate

open Arduino MySensors Dht

inductive Quantity where
  | temperature
  | humidity
deriving DecidableEq, Repr

/-- What happens to the garage station. -/
inductive GarageEvent where
  | loop (r : GarageStation.Readings)
  | receive (message : MyMessage)

variable {sensor : Byte} {es fs : List (Effect Action)} {nodeId : Byte} {metric : Bool}

theorem reportsOf_append : reportsOf sensor (es ++ fs) = reportsOf sensor es ++ reportsOf sensor fs := by
  simp [reportsOf]

theorem reportsOf_eq_nil (h : ∀ m ∈ sent es, m.sensor ≠ sensor) : reportsOf sensor es = [] := by
  simpa [reportsOf] using h

theorem reportsOf_eq_sent (h : ∀ m ∈ sent es, m.sensor = sensor) : reportsOf sensor es = sent es := by
  simpa [reportsOf] using h

/-- The conversion depends on the number that is read, not on its bits. -/
theorem convertTemperature_congr (r r' : BitVec 32) (h : Single.ofBits r = .ofBits r') :
    Single.ofBits (convertTemperature metric r) = .ofBits (convertTemperature metric r') := by
  cases metric <;> simp [convertTemperature, toFahrenheit, h]

section Poll

variable {message : MyMessage} {convert : BitVec 32 → BitVec 32} {c : Channel} {r : BitVec 32}

theorem reportsOf_poll :
    reportsOf message.sensor (c.poll nodeId message convert r).2 =
      sent (c.poll nodeId message convert r).2 :=
  reportsOf_eq_sent fun m hm => (Channel.poll_effects.2 m hm).2.2

theorem reportsOf_poll_other (h : message.sensor ≠ sensor) :
    reportsOf sensor (c.poll nodeId message convert r).2 = [] :=
  reportsOf_eq_nil fun m hm => by rwa [(Channel.poll_effects.2 m hm).2.2]

end Poll

/-! ### The garage station -/

namespace Garage

open GarageStation

variable {n : Node} {e : GarageEvent}

def step (nodeId : Byte) (n : Node) : GarageEvent → Node × List (Effect Action)
  | .loop r => loop nodeId n r
  | .receive m => receive nodeId n m

/-- The second half of `loop` polls the sensor. -/
def readings (n : Node) : GarageEvent → Option Readings
  | .loop r => if n.waiting then some r else none
  | .receive _ => none

theorem metric_step : (step nodeId n e).1.metric = n.metric := by
  cases e with
  | loop r =>
    simp only [step, loop]
    split <;> rfl
  | receive m =>
    simp only [step, receive]
    split
    · split <;> rfl
    · rfl

theorem step_of_readings {r : Readings} (h : readings n e = some r) :
    step nodeId n e =
      ({ (sendReadings nodeId n r).1 with waiting := false }, (sendReadings nodeId n r).2) := by
  cases e with
  | loop r' =>
    simp only [readings] at h
    split at h
    · rename_i hw
      obtain rfl := Option.some.inj h
      simp only [step, loop, hw, if_true]
    · cases h
  | receive m => cases h

/-- The door part sends for another child. -/
theorem reportsOf_sendDoorStatus (h : childIdGarageDoor1State ≠ sensor) (echo : ℕ) :
    reportsOf sensor (sendDoorStatus nodeId echo ++ [.device (.wait updateInterval)]) = [] := by
  obtain ⟨status, hs⟩ : ∃ status, sent (sendDoorStatus nodeId echo) =
      [report nodeId (msgMainDoorStatus.setInt status)] := sent_sendDoorStatus echo
  apply reportsOf_eq_nil
  intro m hm
  simp only [sent_append, hs, sent_device, sent_nil, List.append_nil, List.mem_singleton] at hm
  obtain rfl := hm
  exact h

theorem sensor_of_pulseRelay : ∀ m ∈ sent (pulseRelay nodeId), m.sensor = childIdRelayState := by
  intro m hm
  rw [sent_pulseRelay] at hm
  rcases List.mem_pair.mp hm with rfl | rfl
  · rfl
  · rfl

theorem sensor_of_sendInitialRelayState :
    ∀ m ∈ sent (sendInitialRelayState nodeId n), m.sensor = childIdRelayState := by
  intro m hm
  cases hf : n.initialRelayStateSent with
  | true => simp [sendInitialRelayState, hf] at hm
  | false =>
    rw [sent_sendInitialRelayState hf] at hm
    rcases List.mem_pair.mp hm with rfl | rfl
    · rfl
    · rfl

/-- What is sent for a child with readings comes from the two channels. -/
theorem reportsOf_of_readings {r : Readings} (h : readings n e = some r)
    (hs : childIdGarageDoor1State ≠ sensor) :
    reportsOf sensor (step nodeId n e).2 =
      reportsOf sensor
        (n.temperature.poll nodeId msgTemp (convertTemperature n.metric) r.temperature).2 ++
      reportsOf sensor (n.humidity.poll nodeId msgHum id r.humidity).2 := by
  rw [step_of_readings h]
  simp only [sendReadings, List.append_assoc]
  rw [reportsOf_append, reportsOf_append, reportsOf_sendDoorStatus hs, List.append_nil]

/-- Without readings the channels stay and only the relay's child is sent for. -/
theorem step_of_no_readings (h : readings n e = none) :
    (step nodeId n e).1.temperature = n.temperature ∧
      (step nodeId n e).1.humidity = n.humidity ∧
      ∀ m ∈ sent (step nodeId n e).2, m.sensor = childIdRelayState := by
  cases e with
  | loop r =>
    have hw : n.waiting = false := by
      cases hw : n.waiting with
      | true => simp [readings, hw] at h
      | false => rfl
    simp only [step, loop, hw, Bool.false_eq_true, if_false]
    exact ⟨trivial, trivial, sensor_of_sendInitialRelayState⟩
  | receive m =>
    simp only [step, receive]
    split
    · split
      · simp
      · exact ⟨rfl, rfl, sensor_of_pulseRelay⟩
    · simp

theorem reportsOf_of_no_readings (h : readings n e = none) (hs : childIdRelayState ≠ sensor) :
    reportsOf sensor (step nodeId n e).2 = [] := by
  apply reportsOf_eq_nil
  intro m hm
  rw [(step_of_no_readings h).2.2 m hm]
  exact hs

def temperature (nodeId : Byte) (metric : Bool) : Carrier Node GarageEvent where
  step := step nodeId
  boot := .boot metric
  nodeId := nodeId
  message := msgTemp
  convert := convertTemperature metric
  channel := Node.temperature
  reading n e := (readings n e).map Readings.temperature
  Proper n := n.metric = metric
  proper_boot := rfl
  proper_step := fun _ _ h => metric_step.trans h
  channel_boot := rfl
  polled := by
    intro n e r hm hr
    obtain ⟨rs, hrs, rfl⟩ := Option.map_eq_some_iff.mp hr
    refine ⟨by simp only [step_of_readings hrs, sendReadings, hm], ?_⟩
    rw [reportsOf_of_readings hrs (by decide), hm, reportsOf_poll,
      reportsOf_poll_other (by decide), List.append_nil]
  unpolled := by
    intro n e _ hr
    have hnone := Option.map_eq_none_iff.mp hr
    exact ⟨(step_of_no_readings hnone).1,
      reportsOf_of_no_readings hnone (by decide)⟩
  convert_congr := convertTemperature_congr

def humidity (nodeId : Byte) (metric : Bool) : Carrier Node GarageEvent where
  step := step nodeId
  boot := .boot metric
  nodeId := nodeId
  message := msgHum
  convert := id
  channel := Node.humidity
  reading n e := (readings n e).map Readings.humidity
  Proper n := n.metric = metric
  proper_boot := rfl
  proper_step := fun _ _ h => metric_step.trans h
  channel_boot := rfl
  polled := by
    intro n e r _ hr
    obtain ⟨rs, hrs, rfl⟩ := Option.map_eq_some_iff.mp hr
    refine ⟨by rw [step_of_readings hrs]; rfl, ?_⟩
    rw [reportsOf_of_readings hrs (by decide), reportsOf_poll,
      reportsOf_poll_other (by decide), List.nil_append]
  unpolled := by
    intro n e _ hr
    have hnone := Option.map_eq_none_iff.mp hr
    exact ⟨(step_of_no_readings hnone).2.1, reportsOf_of_no_readings hnone (by decide)⟩
  convert_congr := fun _ _ h => h

end Garage

/-- The garage station's part for a quantity. -/
def garage (nodeId : Byte) (metric : Bool) : Quantity → Carrier GarageStation.Node GarageEvent
  | .temperature => Garage.temperature nodeId metric
  | .humidity => Garage.humidity nodeId metric

/-! ### The roof node -/

namespace Roof

open RoofClimate

theorem reportsOf_loop {n : Node} {r : Readings} :
    reportsOf sensor (loop nodeId n r).2 =
      reportsOf sensor
        (n.temperature.poll nodeId msgTemp (convertTemperature n.metric) r.temperature).2 ++
      reportsOf sensor (n.humidity.poll nodeId msgHum id r.humidity).2 := by
  simp only [loop, List.append_assoc]
  rw [reportsOf_append, reportsOf_append]
  exact congrArg _ (List.append_nil _)

def temperature (nodeId : Byte) (metric : Bool) : Carrier Node Readings where
  step := loop nodeId
  boot := .boot metric
  nodeId := nodeId
  message := msgTemp
  convert := convertTemperature metric
  channel := Node.temperature
  reading _ r := some r.temperature
  Proper n := n.metric = metric
  proper_boot := rfl
  proper_step := fun _ _ h => h
  channel_boot := rfl
  polled := by
    intro n rs r hm hr
    obtain rfl := Option.some.inj hr
    refine ⟨by simp only [loop, hm], ?_⟩
    rw [reportsOf_loop, hm, reportsOf_poll, reportsOf_poll_other (by decide), List.append_nil]
  unpolled := fun _ _ _ h => by cases h
  convert_congr := convertTemperature_congr

def humidity (nodeId : Byte) (metric : Bool) : Carrier Node Readings where
  step := loop nodeId
  boot := .boot metric
  nodeId := nodeId
  message := msgHum
  convert := id
  channel := Node.humidity
  reading _ r := some r.humidity
  Proper n := n.metric = metric
  proper_boot := rfl
  proper_step := fun _ _ h => h
  channel_boot := rfl
  polled := by
    intro n rs r _ hr
    obtain rfl := Option.some.inj hr
    refine ⟨rfl, ?_⟩
    rw [reportsOf_loop, reportsOf_poll, reportsOf_poll_other (by decide), List.nil_append]
  unpolled := fun _ _ _ h => by cases h
  convert_congr := fun _ _ h => h

end Roof

/-- The roof node's part for a quantity. -/
def roof (nodeId : Byte) (metric : Bool) : Quantity → Carrier RoofClimate.Node RoofClimate.Readings
  | .temperature => Roof.temperature nodeId metric
  | .humidity => Roof.humidity nodeId metric

end Climate
