import HomeConfig.HeatPumpNode.Command

/-! Whether a report, read with the words of `receive`, gives back the reported settings. -/
namespace HeatPumpNode

open Arduino MySensors

variable {nodeId : Byte} {conv : FloatToInt} {n n' : Node} {text : List Byte}

def setpointCool : Item := (childIdHvac, vHvacSetpointCool)
def setpointHeat : Item := (childIdHvac, vHvacSetpointHeat)
def speed : Item := (childIdHvac, vHvacSpeed)
def flowState : Item := (childIdHvac, vHvacFlowState)

/-- The report of a node as the gateway forwards it. -/
def forwarded (nodeId : Byte) (n : Node) : List MyMessage :=
  (sent (sendNewStateToGateway nodeId n)).map fun m => setMessage nodeId (itemOf m) m.getString

def deliverAll (nodeId : Byte) (conv : FloatToInt) (n : Node) (ms : List MyMessage) : Node :=
  ms.foldl (fun n m => (receive nodeId conv n m).1) n

/-- Equal TEMP_STATE, FAN_STATE, MODE_STATE and POWER_STATE. -/
structure SameSettings (n n' : Node) : Prop where
  temp : n.tempState = n'.tempState
  fan : n.fanState = n'.fanState
  mode : n.modeState = n'.modeState
  power : n.powerState = n'.powerState

theorem fan_code_bounds (f : HvacFanMode) : -32768 ≤ f.code ∧ f.code ≤ 32767 := by
  cases f <;> decide

theorem mode_code_bounds (m : HvacMode) : -32768 ≤ m.code ∧ m.code ≤ 32767 := by
  cases m <;> decide

theorem getString_setInt_temp (m : MyMessage) (t : AvrInt) :
    (m.setInt t.val).getString = itoa t.val :=
  MyMessage.getString_setInt t.lower t.upper

theorem getString_setInt_fan (m : MyMessage) (f : HvacFanMode) :
    (m.setInt f.code).getString = itoa f.code :=
  MyMessage.getString_setInt (fan_code_bounds f).1 (fan_code_bounds f).2

theorem getString_setInt_mode (m : MyMessage) (mode : HvacMode) :
    (m.setInt mode.code).getString = itoa mode.code :=
  MyMessage.getString_setInt (mode_code_bounds mode).1 (mode_code_bounds mode).2

theorem forwarded_eq : forwarded nodeId n =
    [setMessage nodeId setpointCool (itoa n.tempState.val),
      setMessage nodeId setpointHeat (itoa n.tempState.val),
      setMessage nodeId speed (itoa n.fanState.code),
      setMessage nodeId flowState (itoa n.modeState.code)] := by
  simp only [forwarded, sent_sendNewStateToGateway, List.map_cons, List.map_nil,
    getString_report, getString_setInt_temp, getString_setInt_fan, getString_setInt_mode]
  rfl

/-! ### What a forwarded text does -/

/-- The word and the number that the node reads in a text. -/
def word (text : List Byte) : List Byte := trim (MyMessage.onWire text)

def number (text : List Byte) : Single := atof (MyMessage.onWire text)

theorem recvData_setMessage {item : Item} :
    recvData (setMessage nodeId item text) = word text := by
  rw [recvData, cString_data_setMessage, word]

theorem receive_speed :
    (receive nodeId conv n (setMessage nodeId speed text)).1 = n.setSpeed (word text) := by
  rw [(receive_of_not_ack nodeId conv n isAck_setMessage).1, update_speed rfl,
    recvData_setMessage]

theorem receive_setpoint {item : Item} (hi : item = setpointCool ∨ item = setpointHeat) :
    (receive nodeId conv n (setMessage nodeId item text)).1 = n.setSetpoint conv (number text) := by
  have ht : item.2 = vHvacSetpointCool ∨ item.2 = vHvacSetpointHeat := by
    rcases hi with rfl | rfl
    · exact Or.inl rfl
    · exact Or.inr rfl
  rw [(receive_of_not_ack nodeId conv n isAck_setMessage).1, update_setpoint ht,
    getFloat_setMessage, number]

theorem receive_flowState :
    (receive nodeId conv n (setMessage nodeId flowState text)).1 = n.setFlowState (word text) := by
  rw [(receive_of_not_ack nodeId conv n isAck_setMessage).1, update_flowState rfl,
    recvData_setMessage]

/-- A setpoint survives the round trip. -/
theorem number_itoa (t : AvrInt) : number (itoa t.val) = t.toSingle := by
  rw [number, MyMessage.onWire_of_fits (MyMessage.fits_itoa t.lower t.upper),
    atof_itoa AvrInt.abs_val_lt, AvrInt.toSingle_eq]

theorem setSetpoint_itoa (t : AvrInt) :
    n.setSetpoint conv (number (itoa t.val)) = { n with tempState := t } := by
  rw [number_itoa, Node.setSetpoint, FloatToInt.toInt_toSingle]

/-- The codes of the report are no words of `receive`. -/
theorem speedOf_code (f : HvacFanMode) : speedOf (word (itoa f.code)) = none := by
  cases f <;> decide

theorem flowStateOf_code (m : HvacMode) : flowStateOf (word (itoa m.code)) = none := by
  cases m <;> decide

/-- Only the setpoint of a report is understood. -/
theorem deliverAll_forwarded :
    deliverAll nodeId conv n' (forwarded nodeId n) = { n' with tempState := n.tempState } := by
  rw [forwarded_eq]
  simp only [deliverAll, List.foldl_cons, List.foldl_nil]
  rw [receive_flowState, setFlowState_of_none (flowStateOf_code _), receive_speed,
    setSpeed_of_none (speedOf_code _), receive_setpoint (Or.inr rfl), setSetpoint_itoa,
    receive_setpoint (Or.inl rfl), setSetpoint_itoa]

/-- A report recovers the reported settings exactly in a node that already has the reported
fan speed, mode and power. -/
theorem report_recovers_iff (nodeId : Byte) (conv : FloatToInt) (n n' : Node) :
    SameSettings (deliverAll nodeId conv n' (forwarded nodeId n)) n ↔
      n'.fanState = n.fanState ∧ n'.modeState = n.modeState ∧ n'.powerState = n.powerState := by
  rw [deliverAll_forwarded]
  constructor
  · rintro ⟨-, hfan, hmode, hpower⟩
    exact ⟨hfan, hmode, hpower⟩
  · rintro ⟨hfan, hmode, hpower⟩
    exact ⟨rfl, hfan, hmode, hpower⟩

/-- Fan speed and off state are lost on a node that has just booted. -/
theorem report_not_recovered : ∃ s,
    Machine.run (Session.step 42#8 .orZero) .boot
      [setMessage 42#8 speed (ascii "auto"), setMessage 42#8 flowState (ascii "off")] = some s ∧
    ¬ SameSettings (deliverAll 42#8 .orZero .boot (forwarded 42#8 s.node)) s.node := by
  refine ⟨_, rfl, ?_⟩
  intro h
  exact absurd h.fan (by decide +kernel)

end HeatPumpNode
