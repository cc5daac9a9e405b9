import HomeConfig.Arduino.AvrInt
import HomeConfig.MySensors.Network

/-! The radio node that drives the heat pump by infrared. -/
namespace HeatPumpNode

open Arduino MySensors

/-! ### The infrared library's enumerations -/

inductive HvacMode where
  | hot
  | cold
  | dry
  | fan
  | auto
deriving DecidableEq, Repr

def HvacMode.code : HvacMode → ℤ
  | hot => 0
  | cold => 1
  | dry => 2
  | fan => 3
  | auto => 4

inductive HvacFanMode where
  | speed1
  | speed2
  | speed3
  | speed4
  | speed5
  | speedAuto
  | speedSilent
deriving DecidableEq, Repr

def HvacFanMode.code : HvacFanMode → ℤ
  | speed1 => 0
  | speed2 => 1
  | speed3 => 2
  | speed4 => 3
  | speed5 => 4
  | speedAuto => 5
  | speedSilent => 6

inductive HvacVanneMode where
  | auto
  | h1
  | h2
  | h3
  | h4
  | h5
  | autoMove
deriving DecidableEq, Repr

/-- The arguments of `sendHvacMitsubishi`; a non-zero `off` turns the unit off. -/
structure HvacCommand where
  mode : HvacMode
  temp : AvrInt
  fanMode : HvacFanMode
  vanneMode : HvacVanneMode
  off : ℤ
deriving DecidableEq

inductive Action where
  | sendHvacMitsubishi (command : HvacCommand)
  | wait (ms : ℕ) (command type : Byte)
  | sleep (ms : ℕ)
deriving DecidableEq

/-! ### The sketch -/

def childIdHvac : Byte := 10#8
def commandTypeRequest : Byte := 2#8
def commandTypeReceive : Byte := 1#8
def loopDelayMs : ℕ := 300000

def msgHVACSetPointC : MyMessage := .new childIdHvac vHvacSetpointCool
def msgHVACSetPointH : MyMessage := .new childIdHvac vHvacSetpointHeat
def msgHVACSpeed : MyMessage := .new childIdHvac vHvacSpeed
def msgHVACFlowState : MyMessage := .new childIdHvac vHvacFlowState

/-- The globals, and whether `loop` is inside its waits. -/
structure Node where
  powerState : ℤ
  tempState : AvrInt
  fanState : HvacFanMode
  modeState : HvacMode
  modeStateString : List Byte
  initialValueSent : Bool
  waiting : Bool
deriving DecidableEq

/-- The zero-initialised globals. -/
def Node.boot : Node := ⟨0, .zero, .speed1, .hot, [], false, false⟩

variable (nodeId : Byte) (conv : FloatToInt)

def sendInitialValue (n : Node) : List (Effect Action) :=
  if n.initialValueSent then []
  else
    (send (.registered nodeId) (msgHVACSetPointC.setInt 21)).map .transmit ++
    (send (.registered nodeId) (msgHVACSpeed.setString (ascii "auto"))).map .transmit ++
    (send (.registered nodeId) (msgHVACFlowState.setString (ascii "off"))).map .transmit

def waitForStateToUpdate (command : Byte) : List (Effect Action) :=
  [.device (.wait 5000 command vHvacSpeed), .device (.wait 5000 command vHvacSetpointCool),
    .device (.wait 5000 command vHvacSetpointHeat), .device (.wait 5000 command vHvacFlowState)]

def requestUpdatedStateAndWait : List (Effect Action) :=
  (request (.registered nodeId) childIdHvac vHvacSpeed).map .transmit ++
  (request (.registered nodeId) childIdHvac vHvacSetpointCool).map .transmit ++
  (request (.registered nodeId) childIdHvac vHvacSetpointHeat).map .transmit ++
  (request (.registered nodeId) childIdHvac vHvacFlowState).map .transmit ++
  waitForStateToUpdate commandTypeRequest

/-- `loop` runs in two halves: the poll with its waits, in which messages are received,
and the sleep. -/
def loop (n : Node) : Node × List (Effect Action) :=
  if n.waiting then ({ n with waiting := false }, [.device (.sleep loopDelayMs)])
  else
    ({ n with initialValueSent := true, waiting := true },
      sendInitialValue nodeId n ++ requestUpdatedStateAndWait nodeId ++
        waitForStateToUpdate commandTypeReceive)

/-- The words for a fan speed. -/
def speedOf (recvData : List Byte) : Option HvacFanMode :=
  if equalsIgnoreCase recvData (ascii "auto") then some .speedAuto
  else if equalsIgnoreCase recvData (ascii "min") then some .speed1
  else if equalsIgnoreCase recvData (ascii "normal") then some .speed3
  else if equalsIgnoreCase recvData (ascii "max") then some .speed5
  else none

/-- The words for a flow state. -/
inductive FlowState where
  | coolOn
  | heatOn
  | autoChangeOver
  | off
deriving DecidableEq, Repr

def flowStateOf (recvData : List Byte) : Option FlowState :=
  if equalsIgnoreCase recvData (ascii "coolon") then some .coolOn
  else if equalsIgnoreCase recvData (ascii "heaton") then some .heatOn
  else if equalsIgnoreCase recvData (ascii "autochangeover") then some .autoChangeOver
  else if equalsIgnoreCase recvData (ascii "off") then some .off
  else none

namespace Node

def setSpeed (n : Node) (recvData : List Byte) : Node :=
  match speedOf recvData with
  | some speed => { n with fanState := speed }
  | none => n

def setSetpoint (n : Node) (value : Single) : Node := { n with tempState := conv.toInt value }

def setFlowState (n : Node) (recvData : List Byte) : Node :=
  match flowStateOf recvData with
  | some .coolOn => { n with powerState := 0, modeState := .cold, modeStateString := recvData }
  | some .heatOn => { n with powerState := 0, modeState := .hot, modeStateString := recvData }
  | some .autoChangeOver =>
    { n with powerState := 0, modeState := .hot, modeStateString := recvData }
  | some .off => { n with powerState := 1, modeStateString := recvData }
  | none => n

end Node

/-- `String recvData = message.data`, trimmed. -/
def recvData (message : MyMessage) : List Byte := trim (cString message.data)

/-- The `switch` of `receive`: the new globals and whether `changed` is set. -/
def update (n : Node) (message : MyMessage) : Node × Bool :=
  if message.type = vHvacSpeed then (n.setSpeed (recvData message), false)
  else if message.type = vHvacSetpointCool ∨ message.type = vHvacSetpointHeat then
    (n.setSetpoint conv message.getFloat, Single.ne message.getFloat n.tempState.toSingle)
  else if message.type = vHvacFlowState then
    (n.setFlowState (recvData message), recvData message != n.modeStateString)
  else (n, false)

def command (n : Node) : HvacCommand :=
  ⟨n.modeState, n.tempState, n.fanState, .autoMove, n.powerState⟩

def sendHeatpumpCommand (n : Node) : List (Effect Action) :=
  [.device (.sendHvacMitsubishi (command n))]

def sendNewStateToGateway (n : Node) : List (Effect Action) :=
  (send (.registered nodeId) (msgHVACSetPointC.setInt n.tempState.val)).map .transmit ++
  (send (.registered nodeId) (msgHVACSetPointH.setInt n.tempState.val)).map .transmit ++
  (send (.registered nodeId) (msgHVACSpeed.setInt n.fanState.code)).map .transmit ++
  (send (.registered nodeId) (msgHVACFlowState.setInt n.modeState.code)).map .transmit

def receive (n : Node) (message : MyMessage) : Node × List (Effect Action) :=
  if message.isAck then (n, [])
  else
    let (n', changed) := update conv n message
    (n', (if changed then sendHeatpumpCommand n' else []) ++ sendNewStateToGateway nodeId n')

/-! ### What the callbacks do -/

variable {nodeId conv} {n : Node} {message : MyMessage}

theorem acted_sendNewStateToGateway : acted (sendNewStateToGateway nodeId n) = [] := by
  simp [sendNewStateToGateway]

theorem sent_sendNewStateToGateway : sent (sendNewStateToGateway nodeId n) =
    [report nodeId (msgHVACSetPointC.setInt n.tempState.val),
      report nodeId (msgHVACSetPointH.setInt n.tempState.val),
      report nodeId (msgHVACSpeed.setInt n.fanState.code),
      report nodeId (msgHVACFlowState.setInt n.modeState.code)] := by
  simp [sendNewStateToGateway, send_registered]

theorem receive_ack (h : message.isAck = true) : receive nodeId conv n message = (n, []) := by
  simp [receive, h]

/-- A message that is not an ack updates the globals, may cause a command, and is answered
with a report. -/
theorem receive_of_not_ack (nodeId : Byte) (conv : FloatToInt) (n : Node)
    (h : message.isAck = false) :
    (receive nodeId conv n message).1 = (update conv n message).1 ∧
    acted (receive nodeId conv n message).2 =
      (if (update conv n message).2 then
        [.sendHvacMitsubishi (command (update conv n message).1)] else []) ∧
    sent (receive nodeId conv n message).2 =
      sent (sendNewStateToGateway nodeId (update conv n message).1) := by
  cases hu : update conv n message with
  | mk n' changed =>
    cases changed with
    | true => simp [receive, h, hu, sendHeatpumpCommand, acted_sendNewStateToGateway]
    | false => simp [receive, h, hu, acted_sendNewStateToGateway]

/-! The three cases of the `switch` exclude each other. -/

theorem types_of_speed {type : Byte} (h : type = vHvacSpeed) :
    ¬ (type = vHvacSetpointCool ∨ type = vHvacSetpointHeat) ∧ type ≠ vHvacFlowState := by
  subst h
  decide

theorem types_of_setpoint {type : Byte} (h : type = vHvacSetpointCool ∨ type = vHvacSetpointHeat) :
    type ≠ vHvacSpeed ∧ type ≠ vHvacFlowState := by
  rcases h with rfl | rfl
  · decide
  · decide

theorem types_of_flowState {type : Byte} (h : type = vHvacFlowState) :
    type ≠ vHvacSpeed ∧ ¬ (type = vHvacSetpointCool ∨ type = vHvacSetpointHeat) := by
  subst h
  decide

theorem update_speed (h : message.type = vHvacSpeed) :
    update conv n message = (n.setSpeed (recvData message), false) := by
  rw [update, if_pos h]

theorem update_setpoint (h : message.type = vHvacSetpointCool ∨ message.type = vHvacSetpointHeat) :
    update conv n message = (n.setSetpoint conv message.getFloat,
      Single.ne message.getFloat n.tempState.toSingle) := by
  rw [update, if_neg (types_of_setpoint h).1, if_pos h]

theorem update_flowState (h : message.type = vHvacFlowState) :
    update conv n message =
      (n.setFlowState (recvData message), recvData message != n.modeStateString) := by
  obtain ⟨hs, ht⟩ := types_of_flowState h
  rw [update, if_neg hs, if_neg ht, if_pos h]

/-- The four things that the `switch` can do. -/
theorem update_cases (conv : FloatToInt) (n : Node) (message : MyMessage) :
    (message.type = vHvacSpeed ∧ update conv n message = (n.setSpeed (recvData message), false)) ∨
    ((message.type = vHvacSetpointCool ∨ message.type = vHvacSetpointHeat) ∧
      update conv n message = (n.setSetpoint conv message.getFloat,
        Single.ne message.getFloat n.tempState.toSingle)) ∨
    (message.type = vHvacFlowState ∧ update conv n message =
      (n.setFlowState (recvData message), recvData message != n.modeStateString)) ∨
    ((message.type ≠ vHvacSpeed ∧ message.type ≠ vHvacSetpointCool ∧
      message.type ≠ vHvacSetpointHeat ∧ message.type ≠ vHvacFlowState) ∧
      update conv n message = (n, false)) := by
  by_cases hs : message.type = vHvacSpeed
  · exact Or.inl ⟨hs, update_speed hs⟩
  · by_cases ht : message.type = vHvacSetpointCool ∨ message.type = vHvacSetpointHeat
    · exact Or.inr (Or.inl ⟨ht, update_setpoint ht⟩)
    · by_cases hf : message.type = vHvacFlowState
      · exact Or.inr (Or.inr (Or.inl ⟨hf, update_flowState hf⟩))
      · obtain ⟨hc, hh⟩ := not_or.mp ht
        refine Or.inr (Or.inr (Or.inr ⟨⟨hs, hc, hh, hf⟩, ?_⟩))
        rw [update, if_neg hs, if_neg ht, if_neg hf]

/-! ### The flow states as values of power and mode -/

/-- What a flow state does to POWER_STATE. -/
def FlowState.power : FlowState → ℤ
  | coolOn | heatOn | autoChangeOver => 0
  | off => 1

/-- What a flow state does to MODE_STATE; off leaves it. -/
def FlowState.mode : FlowState → Option HvacMode
  | coolOn => some .cold
  | heatOn | autoChangeOver => some .hot
  | off => none

theorem setFlowState_of_some {word : List Byte} {flow : FlowState}
    (h : flowStateOf word = some flow) :
    n.setFlowState word = { n with
      powerState := flow.power
      modeState := flow.mode.getD n.modeState
      modeStateString := word } := by
  unfold Node.setFlowState
  rw [h]
  cases flow <;> rfl

theorem setFlowState_of_none {word : List Byte} (h : flowStateOf word = none) :
    n.setFlowState word = n := by
  unfold Node.setFlowState
  rw [h]

theorem setSpeed_of_some {word : List Byte} {speed : HvacFanMode}
    (h : speedOf word = some speed) : n.setSpeed word = { n with fanState := speed } := by
  unfold Node.setSpeed
  rw [h]

theorem setSpeed_of_none {word : List Byte} (h : speedOf word = none) : n.setSpeed word = n := by
  unfold Node.setSpeed
  rw [h]

end HeatPumpNode
