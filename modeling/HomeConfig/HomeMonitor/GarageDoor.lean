import HomeConfig.Library.Machine
import HomeConfig.Arduino.Pin
import HomeConfig.HomeMonitor.Sketch

/-! The loop of the garage door station: door, climate and the button on the wall. -/
namespace HomeMonitor

open Arduino

def builtinLed : ℕ := 13
def garageDoorRelayPin : ℕ := 6

/-- What the station does; a frame is transmitted when the driver takes it. -/
inductive Output where
  | action (a : Action)
  | transmit (frame : List Byte)
deriving DecidableEq, Repr

/-- The levels of the pins and the values of the sensor during one iteration. -/
structure Inputs where
  garageDoorProximity : Bool
  humidity : Single
  temperature : Single
  garageDoorSwitchButton : Bool
deriving DecidableEq, Repr

namespace GarageDoor

/-- `String(float)` with its two decimal places. -/
def stringOfFloat (v : Single) : List Byte := dtostrf v 4 2

/-- `RH_ASK::send` refuses a frame that is too long. -/
def driverSend (frame : List Byte) : List Output :=
  if maxMessageLen < frame.length then [] else [.transmit frame]

/-- `send_message` around its frame. -/
def send (readingType readingValue : List Byte) : List Output :=
  .action (.digitalWrite builtinLed true) ::
    driverSend (garageDoorSendMessage readingType readingValue) ++
    [.action (.digitalWrite builtinLed false), .action (.wait 200)]

/-! The parts of `loop`. -/

def reportDoor (i : Inputs) : List Output :=
  .action (.wait 5000) ::
    send (ascii "primary_garage_door")
      (if i.garageDoorProximity = false then ascii "CLOSED" else ascii "OPEN")

def reportClimate (i : Inputs) : List Output :=
  send (ascii "temperature") (stringOfFloat i.temperature) ++
    send (ascii "humidity") (stringOfFloat i.humidity)

/-- The button pulls its pin down. -/
def pressButton (i : Inputs) : List Output :=
  if !i.garageDoorSwitchButton then
    [.action (.digitalWrite garageDoorRelayPin true), .action (.wait 200),
      .action (.digitalWrite garageDoorRelayPin false)]
  else []

/-- A failed reading ends the iteration early. -/
def loop (i : Inputs) : List Output :=
  reportDoor i ++
    if i.humidity = .nan ∨ i.temperature = .nan then [] else reportClimate i ++ pressButton i

/-! ### What an iteration is for -/

def actions (os : List Output) : List Action :=
  os.filterMap fun | .action a => some a | .transmit _ => none

def frames (os : List Output) : List (List Byte) :=
  os.filterMap fun | .transmit frame => some frame | .action _ => none

/-- The station after some iterations: all that it has done. -/
def step (os : List Output) (i : Inputs) : Option (List Output) := some (os ++ loop i)

def relay (os : List Output) : Bool := level garageDoorRelayPin false (actions os)

/-- The pulses on the door relay during an iteration. -/
def relayPulses (os : List Output) (i : Inputs) : ℕ :=
  pulses garageDoorRelayPin (relay os) (actions (loop i))

def doorFrame (i : Inputs) : List Byte :=
  garageDoorSendMessage (ascii "primary_garage_door")
    (if i.garageDoorProximity then ascii "OPEN" else ascii "CLOSED")

def temperatureFrame (i : Inputs) : List Byte :=
  garageDoorSendMessage (ascii "temperature") (stringOfFloat i.temperature)

def humidityFrame (i : Inputs) : List Byte :=
  garageDoorSendMessage (ascii "humidity") (stringOfFloat i.humidity)

def Held (i : Inputs) : Prop := i.garageDoorSwitchButton = false

/-- All duties of an iteration. -/
structure Served (before : List Output) (i : Inputs) (behind : List Output) : Prop where
  held : Held i → relayPulses before i = 1
  released : ¬ Held i → relayPulses before i = 0
  transmitted : frames (loop i) = [doorFrame i] ∨
    frames (loop i) = [doorFrame i, temperatureFrame i, humidityFrame i]
  relay_low : relay behind = false

/-- The sensor does not fail while the button is held, and of two numbers the driver takes
both frames or none. -/
structure Undisturbed (i : Inputs) : Prop where
  sensor : Held i → i.humidity ≠ .nan ∧ i.temperature ≠ .nan
  frames : i.humidity ≠ .nan → i.temperature ≠ .nan →
    ((temperatureFrame i).length ≤ maxMessageLen ↔ (humidityFrame i).length ≤ maxMessageLen)

variable {os os' : List Output} {i : Inputs} {initial : Bool} {type value : List Byte}

theorem actions_append : actions (os ++ os') = actions os ++ actions os' := List.filterMap_append

theorem frames_append : frames (os ++ os') = frames os ++ frames os' := List.filterMap_append

theorem frames_action {a : Action} : frames (.action a :: os) = frames os := rfl

theorem actions_action {a : Action} : actions (.action a :: os) = a :: actions os := rfl

theorem actions_send : actions (send type value) =
    [.digitalWrite builtinLed true, .digitalWrite builtinLed false, .wait 200] := by
  unfold send driverSend
  split <;> rfl

theorem frames_send : frames (send type value) =
    if (garageDoorSendMessage type value).length ≤ maxMessageLen then
      [garageDoorSendMessage type value] else [] := by
  unfold send driverSend
  split
  · rename_i h
    rw [if_neg (by omega)]
    rfl
  · rename_i h
    rw [if_pos (by omega)]
    rfl

theorem length_doorFrame_le : (doorFrame i).length ≤ maxMessageLen := by
  unfold doorFrame
  split <;> decide

/-! ### One iteration -/

theorem frames_reportDoor : frames (reportDoor i) = [doorFrame i] := by
  have hdoor : garageDoorSendMessage (ascii "primary_garage_door")
      (if i.garageDoorProximity = false then ascii "CLOSED" else ascii "OPEN") = doorFrame i := by
    cases h : i.garageDoorProximity <;> simp [doorFrame, h]
  rw [reportDoor, frames_action, frames_send, hdoor, if_pos length_doorFrame_le]

theorem frames_reportClimate : frames (reportClimate i) =
    (if (temperatureFrame i).length ≤ maxMessageLen then [temperatureFrame i] else []) ++
      if (humidityFrame i).length ≤ maxMessageLen then [humidityFrame i] else [] := by
  rw [reportClimate, frames_append, frames_send, frames_send]
  rfl

theorem frames_pressButton : frames (pressButton i) = [] := by
  unfold pressButton
  split <;> rfl

theorem frames_loop : frames (loop i) = doorFrame i ::
    if i.humidity = .nan ∨ i.temperature = .nan then [] else frames (reportClimate i) := by
  rw [loop, frames_append, frames_reportDoor, List.singleton_append]
  split
  · rfl
  · rw [frames_append, frames_pressButton, List.append_nil]

theorem untouched_reportDoor : Untouched garageDoorRelayPin (actions (reportDoor i)) := by
  rw [reportDoor, actions_action, actions_send]
  decide

theorem untouched_reportClimate : Untouched garageDoorRelayPin (actions (reportClimate i)) := by
  rw [reportClimate, actions_append, actions_send, actions_send]
  decide

/-- The part with the button is reached, and the button is held. -/
def Pressed (i : Inputs) : Prop := ¬ (i.humidity = .nan ∨ i.temperature = .nan) ∧ Held i

instance : Decidable (Pressed i) := by
  unfold Pressed Held
  infer_instance

/-- The relay is pulsed when the button is reached, and rests afterwards. -/
theorem level_pulses_loop :
    level garageDoorRelayPin false (actions (loop i)) = false ∧
      pulses garageDoorRelayPin false (actions (loop i)) = if Pressed i then 1 else 0 := by
  obtain ⟨hdoor, hdoor'⟩ : level garageDoorRelayPin false (actions (reportDoor i)) = false ∧
      pulses garageDoorRelayPin false (actions (reportDoor i)) = 0 :=
    untouched_reportDoor.level_pulses
  obtain ⟨hclimate, hclimate'⟩ :
      level garageDoorRelayPin false (actions (reportClimate i)) = false ∧
        pulses garageDoorRelayPin false (actions (reportClimate i)) = 0 :=
    untouched_reportClimate.level_pulses
  rw [loop, actions_append, level_append, pulses_append, hdoor, hdoor', Nat.zero_add]
  by_cases hnan : i.humidity = .nan ∨ i.temperature = .nan
  · rw [if_pos hnan, if_neg fun h : Pressed i => h.1 hnan]
    exact ⟨rfl, rfl⟩
  · rw [if_neg hnan, actions_append, level_append, pulses_append, hclimate, hclimate',
      Nat.zero_add]
    cases hb : i.garageDoorSwitchButton with
    | false =>
      have hpressed : Pressed i := ⟨hnan, hb⟩
      rw [if_pos hpressed]
      simp only [pressButton, hb]
      exact ⟨rfl, rfl⟩
    | true =>
      have hpressed : ¬ Pressed i := by
        rintro ⟨-, hheld⟩
        rw [Held, hb] at hheld
        cases hheld
      rw [if_neg hpressed]
      simp only [pressButton, hb]
      exact ⟨rfl, rfl⟩

theorem relay_step (h : relay os = false) : relay (os ++ loop i) = false := by
  rw [relay, actions_append, level_append, ← relay, h]
  exact level_pulses_loop.1

theorem relayPulses_eq (h : relay os = false) :
    relayPulses os i = if Pressed i then 1 else 0 := by
  rw [relayPulses, h]
  exact level_pulses_loop.2

theorem transmitted_iff : (frames (loop i) = [doorFrame i] ∨
      frames (loop i) = [doorFrame i, temperatureFrame i, humidityFrame i]) ↔
    (i.humidity ≠ .nan → i.temperature ≠ .nan →
      ((temperatureFrame i).length ≤ maxMessageLen ↔
        (humidityFrame i).length ≤ maxMessageLen)) := by
  rw [frames_loop]
  by_cases hnan : i.humidity = .nan ∨ i.temperature = .nan
  · rw [if_pos hnan]
    refine iff_of_true (.inl rfl) ?_
    intro hh ht
    exact (hnan.elim hh ht).elim
  · obtain ⟨hh, ht⟩ := not_or.mp hnan
    rw [if_neg hnan, frames_reportClimate, forall_prop_of_true hh, forall_prop_of_true ht]
    by_cases hfirst : (temperatureFrame i).length ≤ maxMessageLen
    · by_cases hsecond : (humidityFrame i).length ≤ maxMessageLen
      · simp [hfirst, hsecond]
      · simp [hfirst, hsecond]
    · by_cases hsecond : (humidityFrame i).length ≤ maxMessageLen
      · simp [hfirst, hsecond]
      · simp [hfirst, hsecond]

theorem served_iff_undisturbed (h : relay os = false) (hs : step os i = some os') :
    Served os i os' ↔ Undisturbed i := by
  obtain rfl := Option.some.inj hs
  have hpulses := relayPulses_eq (i := i) h
  constructor
  · rintro ⟨hheld, -, htransmitted, -⟩
    refine ⟨?_, transmitted_iff.mp htransmitted⟩
    intro hi
    by_contra hnan
    have hpressed : ¬ Pressed i := fun hp => hnan (not_or.mp hp.1)
    rw [hheld hi, if_neg hpressed] at hpulses
    cases hpulses
  · rintro ⟨hsensor, hframes⟩
    refine ⟨?_, ?_, transmitted_iff.mpr hframes, relay_step h⟩
    · intro hi
      rw [hpulses, if_pos ⟨not_or.mpr (hsensor hi), hi⟩]
    · intro hi
      rw [hpulses, if_neg fun hp : Pressed i => hi hp.2]

/-- Every iteration of a run does all its duties exactly when no reading fails while the
button is held, and no reading is so large that its frame alone is refused. -/
theorem everyStep_served_iff (is : List Inputs) :
    Machine.EveryStep step Served [] is ↔
      Machine.EveryStep step (fun _ i _ => Undisturbed i) [] is :=
  Machine.everyStep_congr (I := fun os => relay os = false)
    (fun _ _ _ h _ hs => Option.some.inj hs ▸ relay_step h)
    (fun _ _ _ h hs => served_iff_undisturbed h hs) rfl

/-! ### Readings of usual size -/

/-- No DHT sensor reads a number of thirty digits. -/
def Moderate (v : Single) : Prop := ∀ q, v = .finite q → |q| < 10 ^ 30

theorem length_stringOfFloat_le {v : Single} (h : Moderate v) : (stringOfFloat v).length ≤ 35 :=
  length_dtostrf_le (k := 30) (by decide) (by decide) h

theorem length_garageDoorSendMessage_le {readingType readingValue : List Byte}
    (ht : readingType.length ≤ 11) (hv : readingValue.length ≤ 35) :
    (garageDoorSendMessage readingType readingValue).length ≤ maxMessageLen := by
  have hsend : (garageDoorSendMessage readingType readingValue).length ≤
      (message (ascii "garage") readingType readingValue).length := by
    rw [garageDoorSendMessage, sendMessage]
    exact length_toCharArray_le _ _
  refine hsend.trans ?_
  have hstart : (ascii "R>" ++ ascii "garage" ++ ascii ":").length = 9 := by decide
  have hsign : (ascii "=").length = 1 := by decide
  rw [message, List.length_append, List.length_append, List.length_append, hstart, hsign,
    maxMessageLen]
  omega

/-- The frames of such readings are never refused. -/
theorem undisturbed_iff_sensor (ht : Moderate i.temperature) (hh : Moderate i.humidity) :
    Undisturbed i ↔ (Held i → i.humidity ≠ .nan ∧ i.temperature ≠ .nan) := by
  have htemperature : (temperatureFrame i).length ≤ maxMessageLen :=
    length_garageDoorSendMessage_le (by decide) (length_stringOfFloat_le ht)
  have hhumidity : (humidityFrame i).length ≤ maxMessageLen :=
    length_garageDoorSendMessage_le (by decide) (length_stringOfFloat_le hh)
  constructor
  · intro h
    exact h.sensor
  · intro h
    exact ⟨h, fun _ _ => iff_of_true htemperature hhumidity⟩

/-- The button is held while the sensor fails: the relay does not move. -/
theorem button_ignored : ¬ Machine.EveryStep step Served [] [⟨true, .nan, .finite 20, false⟩] := by
  intro h
  have hserved : Served [] ⟨true, .nan, .finite 20, false⟩ (loop ⟨true, .nan, .finite 20, false⟩) :=
    (h _ rfl).1
  have hundisturbed : Undisturbed ⟨true, .nan, .finite 20, false⟩ :=
    (served_iff_undisturbed rfl rfl).mp hserved
  exact (hundisturbed.sensor rfl).1 rfl

end GarageDoor

end HomeMonitor
