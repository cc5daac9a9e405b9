import HomeConfig.HeatPumpNode.Vocabulary

/-! What was asked for: the settings received since the initial report, and whether the
commands and reports of the node show them. -/
namespace HeatPumpNode

open Arduino MySensors

variable {nodeId : Byte} {conv : FloatToInt} {n : Node} {m : MyMessage} {ms : List MyMessage}

/-- The last recognised value received for each setting. -/
structure Received where
  setpoint : Option Single
  fan : Option HvacFanMode
  mode : Option HvacMode
  off : Option Bool

/-- The mode that a flow state asks for; off asks for none. -/
def FlowState.asksMode : FlowState → Option HvacMode
  | coolOn => some .cold
  | heatOn => some .hot
  | autoChangeOver => some .auto
  | off => none

def FlowState.asksOff (flow : FlowState) : Bool := flow = .off

namespace Received

variable {r : Received}

def nothing : Received := ⟨none, none, none, none⟩

/-- A message that is not an ack sets what it names. Any text is a setpoint, one without digits
being zero. -/
def note (r : Received) (m : MyMessage) : Received :=
  if m.isAck then r
  else if m.type = vHvacSpeed then { r with fan := (speedOf (recvData m)).or r.fan }
  else if m.type = vHvacSetpointCool ∨ m.type = vHvacSetpointHeat then
    { r with setpoint := some m.getFloat }
  else if m.type = vHvacFlowState then
    match flowStateOf (recvData m) with
    | some flow => { r with mode := flow.asksMode.or r.mode, off := some flow.asksOff }
    | none => r
  else r

/-! The initial report announces setpoint 21, speed auto and flow state off, which names
no mode. -/

def askedSetpoint (r : Received) : Single := r.setpoint.getD (.finite 21)

def askedFan (r : Received) : HvacFanMode := r.fan.getD .speedAuto

def askedOff (r : Received) : Bool := r.off.getD true

end Received

/-- What was received during a run. -/
def received (ms : List MyMessage) : Received := ms.foldl Received.note .nothing

/-- The node after its first loop iteration and the messages. -/
def after (nodeId : Byte) (conv : FloatToInt) (ms : List MyMessage) : Node :=
  deliverAll nodeId conv (loop nodeId .boot).1 ms

/-- An infrared command shows all four settings. -/
structure CommandShows (r : Received) (c : HvacCommand) : Prop where
  setpoint : c.temp.toSingle = r.askedSetpoint
  fan : c.fanMode = r.askedFan
  mode : ∀ mode, r.mode = some mode → c.mode = mode
  power : c.off ≠ 0 ↔ r.askedOff = true

/-- A reported value shows the setting that it is about. -/
structure ReportShows (r : Received) (m : MyMessage) : Prop where
  setpoint : m.type = vHvacSetpointCool ∨ m.type = vHvacSetpointHeat →
    atof m.getString = r.askedSetpoint
  fan : m.type = vHvacSpeed → m.getString = itoa r.askedFan.code
  mode : m.type = vHvacFlowState → ∀ mode, r.mode = some mode → m.getString = itoa mode.code

/-- Everything that the node emits when `m` arrives after `ms` shows what was asked for. -/
structure Reflects (nodeId : Byte) (conv : FloatToInt) (ms : List MyMessage) (m : MyMessage) :
    Prop where
  commands : ∀ c, .sendHvacMitsubishi c ∈ acted (receive nodeId conv (after nodeId conv ms) m).2 →
    CommandShows (received (ms ++ [m])) c
  reports : ∀ r ∈ sent (receive nodeId conv (after nodeId conv ms) m).2,
    ReportShows (received (ms ++ [m])) r

/-- The comparisons that make the node send a command. -/
def Differs (n : Node) (m : MyMessage) : Prop :=
  (m.type = vHvacSetpointCool ∨ m.type = vHvacSetpointHeat) ∧
    Single.ne m.getFloat n.tempState.toSingle = true ∨
  m.type = vHvacFlowState ∧ recvData m ≠ n.modeStateString

/-- The received values replace the zeros of the globals and mean the same to the node:
a whole setpoint, some speed, no auto change-over, and a flow state before any command. -/
structure Settled (nodeId : Byte) (conv : FloatToInt) (ms : List MyMessage) (m : MyMessage) :
    Prop where
  setpoint : ∃ k : ℤ, -32768 ≤ k ∧ k ≤ 32767 ∧
    (received (ms ++ [m])).setpoint = some (.finite k)
  fan : (received (ms ++ [m])).fan ≠ none
  mode : (received (ms ++ [m])).mode ≠ some .auto
  power : Differs (after nodeId conv ms) m → (received (ms ++ [m])).off ≠ none

/-! ### The globals in terms of what was received -/

/-- The mode that the node stores for an asked one. -/
def storedMode : HvacMode → HvacMode
  | .auto => .hot
  | mode => mode

/-- Settings that were never received are still zero. -/
structure Tracks (conv : FloatToInt) (r : Received) (n : Node) : Prop where
  temp : n.tempState = (r.setpoint.map conv.toInt).getD .zero
  fan : n.fanState = r.fan.getD .speed1
  mode : n.modeState = (r.mode.map storedMode).getD .hot
  power : n.powerState = if r.off = some true then 1 else 0

theorem tracks_loop : Tracks conv .nothing (loop nodeId .boot).1 := ⟨rfl, rfl, rfl, rfl⟩

theorem tracks_note {r : Received} (h : Tracks conv r n) :
    Tracks conv (r.note m) (receive nodeId conv n m).1 := by
  unfold Received.note
  cases ha : m.isAck with
  | true =>
    rw [receive_ack ha, if_pos rfl]
    exact h
  | false =>
    rw [(receive_of_not_ack nodeId conv n ha).1, if_neg Bool.false_ne_true]
    obtain ⟨ht, hu⟩ | ⟨ht, hu⟩ | ⟨ht, hu⟩ | ⟨⟨hs, hc, hh, hf⟩, hu⟩ := update_cases conv n m
    · rw [hu, if_pos ht]
      cases hw : speedOf (recvData m) with
      | none =>
        rw [setSpeed_of_none hw]
        exact h
      | some speed =>
        rw [setSpeed_of_some hw]
        exact ⟨h.temp, rfl, h.mode, h.power⟩
    · rw [hu, if_neg (types_of_setpoint ht).1, if_pos ht]
      exact ⟨rfl, h.fan, h.mode, h.power⟩
    · obtain ⟨hs, hsetpoint⟩ := types_of_flowState ht
      rw [hu, if_neg hs, if_neg hsetpoint, if_pos ht]
      cases hw : flowStateOf (recvData m) with
      | none =>
        rw [setFlowState_of_none hw]
        exact h
      | some flow =>
        rw [setFlowState_of_some hw]
        cases flow with
        | coolOn => exact ⟨h.temp, h.fan, rfl, rfl⟩
        | heatOn => exact ⟨h.temp, h.fan, rfl, rfl⟩
        | autoChangeOver => exact ⟨h.temp, h.fan, rfl, rfl⟩
        | off => exact ⟨h.temp, h.fan, h.mode, rfl⟩
    · rw [hu, if_neg hs, if_neg (not_or.mpr ⟨hc, hh⟩), if_neg hf]
      exact h

theorem tracks_foldl {r : Received} (h : Tracks conv r n) :
    Tracks conv (ms.foldl Received.note r) (deliverAll nodeId conv n ms) := by
  induction ms generalizing r n with
  | nil => exact h
  | cons m ms ih => exact ih (tracks_note h)

theorem received_concat : received (ms ++ [m]) = (received ms).note m := by
  simp [received]

/-- The globals that the emissions show. -/
theorem tracks_after : Tracks conv (received (ms ++ [m]))
    (receive nodeId conv (after nodeId conv ms) m).1 := by
  rw [received_concat]
  exact tracks_note (tracks_foldl tracks_loop)

/-! ### When one setting is shown -/

section Shown

variable {r : Received}

theorem temp_shown_iff (h : Tracks conv r n) : n.tempState.toSingle = r.askedSetpoint ↔
    ∃ k : ℤ, -32768 ≤ k ∧ k ≤ 32767 ∧ r.setpoint = some (.finite k) := by
  rw [h.temp, Received.askedSetpoint]
  cases hr : r.setpoint with
  | none =>
    -- zero is not the announced 21
    refine iff_of_false ?_ ?_
    · rw [Option.map_none, Option.getD_none, Option.getD_none, AvrInt.toSingle_eq]
      decide
    · rintro ⟨k, -, -, hk⟩
      cases hk
  | some x => simpa using FloatToInt.toSingle_toInt_iff (c := conv) (x := x)

theorem fan_shown_iff (h : Tracks conv r n) : n.fanState = r.askedFan ↔ r.fan ≠ none := by
  rw [h.fan, Received.askedFan]
  cases r.fan with
  | none => decide
  | some fan => simp

theorem mode_shown_iff (h : Tracks conv r n) :
    (∀ mode, r.mode = some mode → n.modeState = mode) ↔ r.mode ≠ some .auto := by
  rw [h.mode]
  cases r.mode with
  | none => simp
  | some mode => cases mode <;> simp [storedMode]

theorem power_shown_iff (h : Tracks conv r n) :
    (n.powerState ≠ 0 ↔ r.askedOff = true) ↔ r.off ≠ none := by
  rw [h.power, Received.askedOff]
  cases r.off with
  | none => simp
  | some off => cases off <;> simp

theorem fan_code_inj {f g : HvacFanMode} : itoa f.code = itoa g.code ↔ f = g := by
  have hbound (f : HvacFanMode) : |f.code| < 2 ^ 24 := by
    cases f <;> decide
  rw [itoa_inj (hbound f) (hbound g)]
  constructor
  · intro h
    cases f <;> cases g <;> first | rfl | exact absurd h (by decide)
  · rintro rfl
    rfl

theorem mode_code_inj {a b : HvacMode} : itoa a.code = itoa b.code ↔ a = b := by
  have hbound (a : HvacMode) : |a.code| < 2 ^ 24 := by
    cases a <;> decide
  rw [itoa_inj (hbound a) (hbound b)]
  constructor
  · intro h
    cases a <;> cases b <;> first | rfl | exact absurd h (by decide)
  · rintro rfl
    rfl

theorem atof_getString_setInt (t : AvrInt) :
    atof (m.setInt t.val).getString = t.toSingle := by
  rw [getString_setInt_temp, atof_itoa AvrInt.abs_val_lt,
    AvrInt.toSingle_eq]

/-- The four reports together show setpoint, speed and mode. -/
theorem reports_show_iff : (∀ q ∈ sent (sendNewStateToGateway nodeId n), ReportShows r q) ↔
    n.tempState.toSingle = r.askedSetpoint ∧ n.fanState = r.askedFan ∧
      ∀ mode, r.mode = some mode → n.modeState = mode := by
  have hcool := types_of_setpoint (Or.inl rfl : vHvacSetpointCool = vHvacSetpointCool ∨ _)
  have hheat := types_of_setpoint (Or.inr rfl : _ ∨ vHvacSetpointHeat = vHvacSetpointHeat)
  have hspeed := types_of_speed (rfl : vHvacSpeed = _)
  have hflow := types_of_flowState (rfl : vHvacFlowState = _)
  rw [sent_sendNewStateToGateway]
  simp only [List.forall_mem_cons, List.not_mem_nil, false_implies, implies_true, and_true]
  constructor
  · rintro ⟨hc, -, hs, hf⟩
    refine ⟨?_, ?_, ?_⟩
    · rw [← hc.setpoint (Or.inl rfl), getString_report, atof_getString_setInt]
    · have h := hs.fan rfl
      rw [getString_report, getString_setInt_fan] at h
      exact fan_code_inj.mp h
    · intro mode hm
      have h := hf.mode rfl mode hm
      rw [getString_report, getString_setInt_mode] at h
      exact mode_code_inj.mp h
  · rintro ⟨ht, hf, hm⟩
    have hsetpoint (m : MyMessage) :
        atof (report nodeId (m.setInt n.tempState.val)).getString = r.askedSetpoint := by
      rw [getString_report, atof_getString_setInt, ht]
    refine ⟨⟨fun _ => hsetpoint _, fun h => absurd h hcool.1, fun h => absurd h hcool.2⟩,
      ⟨fun _ => hsetpoint _, fun h => absurd h hheat.1, fun h => absurd h hheat.2⟩,
      ⟨fun h => absurd h hspeed.1, fun _ => ?_, fun h => absurd h hspeed.2⟩,
      ⟨fun h => absurd h hflow.2, fun h => absurd h hflow.1, fun _ mode hmode => ?_⟩⟩
    · rw [getString_report, getString_setInt_fan, hf]
    · rw [getString_report, getString_setInt_mode, hm mode hmode]

end Shown

theorem changed_iff_differs : (update conv n m).2 = true ↔ Differs n m := by
  unfold Differs
  obtain ⟨ht, hu⟩ | ⟨ht, hu⟩ | ⟨ht, hu⟩ | ⟨⟨-, hc, hh, hf⟩, hu⟩ := update_cases conv n m
  · obtain ⟨hsetpoint, hflow⟩ := types_of_speed ht
    simp [hu, hsetpoint, hflow]
  · simp [hu, ht, (types_of_setpoint ht).2]
  · have hsetpoint := (types_of_flowState ht).2
    rw [ht] at hsetpoint
    simp [hu, ht, hsetpoint]
  · simp [hu, hc, hh, hf]

theorem reflects_of_ack (ha : m.isAck = true) : Reflects nodeId conv ms m := by
  constructor
  · intro c hc
    rw [receive_ack ha] at hc
    cases hc
  · intro r hr
    rw [receive_ack ha] at hr
    cases hr

/-- Another message makes the node send a command, if something differs, and its reports. -/
theorem reflects_iff_of_not_ack (ha : m.isAck = false) : Reflects nodeId conv ms m ↔
    (Differs (after nodeId conv ms) m → CommandShows (received (ms ++ [m]))
      (command (update conv (after nodeId conv ms) m).1)) ∧
    ∀ q ∈ sent (sendNewStateToGateway nodeId (update conv (after nodeId conv ms) m).1),
      ReportShows (received (ms ++ [m])) q := by
  obtain ⟨-, hacted, hsent⟩ := receive_of_not_ack nodeId conv (after nodeId conv ms) ha
  have hcommands (c : HvacCommand) :
      .sendHvacMitsubishi c ∈ acted (receive nodeId conv (after nodeId conv ms) m).2 ↔
        Differs (after nodeId conv ms) m ∧
          c = command (update conv (after nodeId conv ms) m).1 := by
    have hdiffers : (update conv (after nodeId conv ms) m).2 = true ↔
        Differs (after nodeId conv ms) m := changed_iff_differs
    rw [hacted, ← hdiffers]
    split
    · rename_i hchanged
      simp [hchanged]
    · rename_i hchanged
      simp [hchanged]
  constructor
  · rintro ⟨hc, hr⟩
    rw [hsent] at hr
    exact ⟨fun hd => hc _ ((hcommands _).mpr ⟨hd, rfl⟩), hr⟩
  · rintro ⟨hc, hr⟩
    refine ⟨?_, hsent ▸ hr⟩
    intro c hmem
    obtain ⟨hd, rfl⟩ := (hcommands c).mp hmem
    exact hc hd

/-- At every step of every run the emissions show what was asked for exactly when the
message is an ack, which emits nothing, or everything is settled. -/
theorem reflects_iff_settled (nodeId : Byte) (conv : FloatToInt) (ms : List MyMessage)
    (m : MyMessage) :
    Reflects nodeId conv ms m ↔ m.isAck = true ∨ Settled nodeId conv ms m := by
  cases ha : m.isAck with
  | true => exact iff_of_true (reflects_of_ack ha) (Or.inl rfl)
  | false =>
    rw [or_iff_right Bool.false_ne_true, reflects_iff_of_not_ack ha, reports_show_iff]
    have htracks : Tracks conv (received (ms ++ [m]))
        (update conv (after nodeId conv ms) m).1 :=
      (receive_of_not_ack nodeId conv (after nodeId conv ms) ha).1 ▸ tracks_after
    have htemp := temp_shown_iff htracks
    have hfan := fan_shown_iff htracks
    have hmode := mode_shown_iff htracks
    have hpower := power_shown_iff htracks
    constructor
    · rintro ⟨hcommand, ht, hf, hm⟩
      exact ⟨htemp.mp ht, hfan.mp hf, hmode.mp hm, fun hd => hpower.mp (hcommand hd).power⟩
    · rintro ⟨ht, hf, hm, hp⟩
      have ht := htemp.mpr ht
      have hf := hfan.mpr hf
      have hm := hmode.mpr hm
      exact ⟨fun hd => ⟨ht, hf, hm, hpower.mpr (hp hd)⟩, ht, hf, hm⟩

/-- The first setpoint switches the unit on, at fan speed 1, although off and auto were
announced and nothing else was asked for. -/
theorem setpoint_switches_on :
    (∃ c, .sendHvacMitsubishi c ∈ acted (receive 42#8 .orZero (after 42#8 .orZero [])
        (setMessage 42#8 setpointCool (ascii "22"))).2 ∧ c.off = 0 ∧ c.fanMode = .speed1) ∧
    ¬ Reflects 42#8 .orZero [] (setMessage 42#8 setpointCool (ascii "22")) := by
  have hsent : .sendHvacMitsubishi ⟨.hot, ⟨22, by decide, by decide⟩, .speed1, .autoMove, 0⟩ ∈
      acted (receive 42#8 .orZero (after 42#8 .orZero [])
        (setMessage 42#8 setpointCool (ascii "22"))).2 := by decide +kernel
  refine ⟨⟨_, hsent, rfl, rfl⟩, ?_⟩
  intro h
  exact absurd (h.commands _ hsent).fan (by decide +kernel)

end HeatPumpNode
