import HomeConfig.MySensors.Message

/-! Sending from a sketch: `send`, `request` and the effects of a callback in program order. -/
namespace MySensors

open Arduino

def gatewayAddress : Byte := 0#8

def nodeSensorId : Byte := 255#8

/-- The part of the core configuration that sending consults. -/
structure CoreConfig where
  nodeId : Byte
  nodeRegistered : Bool
deriving DecidableEq, Repr

/-- A node that the gateway has registered, as `_registerNode` leaves it. -/
def CoreConfig.registered (nodeId : Byte) : CoreConfig := ⟨nodeId, true⟩

/-- Hand a message to the transport, which is ready; the last hop is this node. -/
def sendRoute (core : CoreConfig) (message : MyMessage) : List MyMessage :=
  [{ message with last := core.nodeId }]

/-- `send`: a C_SET from this node, dropped while the node is not registered. -/
def send (core : CoreConfig) (message : MyMessage) (enableAck : Bool := false) : List MyMessage :=
  let message := ({ message with sender := core.nodeId }.setCommand cSet).setRequestAck enableAck
  if core.nodeRegistered then sendRoute core message else []

def build (core : CoreConfig) (destination sensor command type : Byte) (ack : Bool := false) :
    MyMessage :=
  let message := { MyMessage.clear with sender := core.nodeId, destination, sensor, type }
  ((message.setCommand command).setRequestAck ack).setAck false

/-- `request`: a C_REQ with an empty payload. -/
def request (core : CoreConfig) (childSensorId variableType : Byte) : List MyMessage :=
  sendRoute core ((build core gatewayAddress childSensorId cReq variableType).setString [])

/-- One thing a callback does: a message leaves, or the device `δ` acts. -/
inductive Effect (δ : Type) where
  | transmit (message : MyMessage)
  | device (action : δ)
deriving DecidableEq, Repr

variable {δ : Type} {es fs : List (Effect δ)} {core : CoreConfig} {m : MyMessage} {nodeId : Byte}

def sent (es : List (Effect δ)) : List MyMessage :=
  es.filterMap fun | .transmit m => some m | .device _ => none

def acted (es : List (Effect δ)) : List δ :=
  es.filterMap fun | .transmit _ => none | .device a => some a

@[simp] theorem sent_nil : sent ([] : List (Effect δ)) = [] := rfl
@[simp] theorem sent_transmit : sent (.transmit m :: es) = m :: sent es := rfl
@[simp] theorem sent_device (a : δ) : sent (.device a :: es) = sent es := rfl
@[simp] theorem acted_nil : acted ([] : List (Effect δ)) = [] := rfl
@[simp] theorem acted_transmit : acted (.transmit m :: es) = acted es := rfl
@[simp] theorem acted_device (a : δ) : acted (.device a :: es) = a :: acted es := rfl
@[simp] theorem sent_append : sent (es ++ fs) = sent es ++ sent fs := List.filterMap_append
@[simp] theorem acted_append : acted (es ++ fs) = acted es ++ acted fs := List.filterMap_append

@[simp] theorem sent_map_transmit (ms : List MyMessage) :
    sent (ms.map Effect.transmit : List (Effect δ)) = ms := by
  induction ms with
  | nil => rfl
  | cons m ms ih => simp [ih]

@[simp] theorem acted_map_transmit (ms : List MyMessage) :
    acted (ms.map Effect.transmit : List (Effect δ)) = [] := by
  induction ms with
  | nil => rfl
  | cons m ms ih => simp [ih]

/-- The message that a registered node puts on the air. -/
def report (nodeId : Byte) (message : MyMessage) : MyMessage :=
  { ({ message with sender := nodeId }.setCommand cSet).setRequestAck false with last := nodeId }

def inquiry (nodeId childSensorId variableType : Byte) : MyMessage :=
  { (build (.registered nodeId) gatewayAddress childSensorId cReq variableType).setString [] with
    last := nodeId }

theorem send_registered : send (.registered nodeId) m = [report nodeId m] := rfl

theorem request_registered (child type : Byte) :
    request (.registered nodeId) child type = [inquiry nodeId child type] := rfl

@[simp] theorem getCommand_report : (report nodeId m).getCommand = cSet :=
  (MyMessage.getCommand_setRequestAck _).trans (MyMessage.getCommand_setCommand (by decide))

@[simp] theorem type_report : (report nodeId m).type = m.type := rfl
@[simp] theorem sensor_report : (report nodeId m).sensor = m.sensor := rfl

@[simp] theorem getString_report : (report nodeId m).getString = m.getString := by
  refine MyMessage.getString_congr (m := m) (n := report nodeId m) ?_ rfl rfl
  exact (MyMessage.getPayloadType_setRequestAck _).trans (MyMessage.getPayloadType_setCommand _)

@[simp] theorem getFloat_report : (report nodeId m).getFloat = m.getFloat := by
  refine MyMessage.getFloat_congr (m := m) (n := report nodeId m) ?_ rfl
  exact (MyMessage.getPayloadType_setRequestAck _).trans (MyMessage.getPayloadType_setCommand _)

@[simp] theorem getCommand_inquiry (child type : Byte) :
    (inquiry nodeId child type).getCommand = cReq := by
  have hw := MyMessage.getCommand_write
    (m := build (.registered nodeId) gatewayAddress child cReq type) pString 0 [0#8]
  refine hw.trans ?_
  simp only [build, MyMessage.getCommand_setAck, MyMessage.getCommand_setRequestAck]
  exact MyMessage.getCommand_setCommand (by decide)

@[simp] theorem type_inquiry (child type : Byte) : (inquiry nodeId child type).type = type := rfl
@[simp] theorem sensor_inquiry (child type : Byte) :
    (inquiry nodeId child type).sensor = child := rfl

end MySensors
