import HomeConfig.Library.Machine
import HomeConfig.HeatPumpNode.Sketch

/-! Which changes of the settings are transmitted to the heat pump. -/
namespace HeatPumpNode

open Arduino MySensors

variable {nodeId : Byte} {conv : FloatToInt} {n : Node} {m : MyMessage}

def commandsOf (as : List Action) : List HvacCommand :=
  as.filterMap fun | .sendHvacMitsubishi c => some c | _ => none

/-- The node and the infrared commands it has transmitted. -/
structure Session where
  node : Node
  commands : List HvacCommand

variable {s t : Session}

namespace Session

def boot : Session := ⟨.boot, []⟩

/-- A message is delivered. -/
def step (nodeId : Byte) (conv : FloatToInt) (s : Session) (m : MyMessage) : Option Session :=
  let r := receive nodeId conv s.node m
  some ⟨r.1, s.commands ++ commandsOf (acted r.2)⟩

end Session

/-- A change of the settings is transmitted at once, and the last command that was ever
transmitted shows the settings. -/
structure Transmitted (s : Session) (_m : MyMessage) (t : Session) : Prop where
  changed : command t.node ≠ command s.node →
    ∃ cs, t.commands = s.commands ++ cs ∧ command t.node ∈ cs
  last : t.commands ≠ [] → t.commands.getLast? = some (command t.node)

/-- The message does not select another fan speed. -/
def SpeedKept (s : Session) (m : MyMessage) : Prop :=
  m.isAck = false → m.type = vHvacSpeed →
    ∀ speed, speedOf (recvData m) = some speed → speed = s.node.fanState

/-- The remembered word describes power and mode. -/
def Consistent (n : Node) : Prop :=
  ∀ flow, flowStateOf n.modeStateString = some flow →
    n.powerState = flow.power ∧ flow.mode.getD n.modeState = n.modeState

theorem consistent_boot : Consistent .boot := by
  intro flow h
  cases h

theorem consistent_update (h : Consistent n) : Consistent (update conv n m).1 := by
  obtain ⟨-, hu⟩ | ⟨-, hu⟩ | ⟨-, hu⟩ | ⟨-, hu⟩ := update_cases conv n m
  · rw [hu]
    cases hw : speedOf (recvData m) with
    | none => rwa [setSpeed_of_none hw]
    | some speed => rwa [setSpeed_of_some hw]
  · rw [hu]
    exact h
  · rw [hu]
    cases hw : flowStateOf (recvData m) with
    | none => rwa [setFlowState_of_none hw]
    | some flow =>
      rw [setFlowState_of_some hw]
      intro flow' h'
      have heq : flow' = flow := Option.some.inj (h'.symm.trans hw)
      subst flow'
      refine ⟨rfl, ?_⟩
      cases flow <;> rfl
  · rw [hu]
    exact h

/-- When `changed` stays clear, the settings are kept unless a message selects another
fan speed: the comparisons of the other branches see every change. -/
theorem command_update_eq_iff (hc : Consistent n) (hu : (update conv n m).2 = false) :
    command (update conv n m).1 = command n ↔
      (m.type = vHvacSpeed → ∀ speed, speedOf (recvData m) = some speed → speed = n.fanState) := by
  obtain ⟨ht, h⟩ | ⟨ht, h⟩ | ⟨ht, h⟩ | ⟨⟨ht, -⟩, h⟩ := update_cases conv n m
  · rw [h]
    cases hw : speedOf (recvData m) with
    | none =>
      rw [setSpeed_of_none hw]
      simp
    | some speed =>
      rw [setSpeed_of_some hw]
      constructor
      · intro heq _ speed' hs
        have hfan : speed = n.fanState := congrArg HvacCommand.fanMode heq
        rw [← Option.some.inj hs]
        exact hfan
      · intro heq
        rw [command, heq ht speed rfl]
        rfl
  · -- the setpoint was compared as a number
    rw [h] at hu ⊢
    have hvalue : m.getFloat = n.tempState.toSingle := by
      simpa [Single.ne] using (Bool.or_eq_false_iff.mp hu).2
    refine iff_of_true ?_ fun hs => absurd hs (types_of_setpoint ht).1
    simp [command, Node.setSetpoint, hvalue]
  · -- the flow state was compared as a text
    rw [h] at hu ⊢
    have hword : recvData m = n.modeStateString := by simpa using hu
    refine iff_of_true ?_ fun hs => absurd hs (types_of_flowState ht).1
    rw [hword]
    cases hw : flowStateOf n.modeStateString with
    | none => rw [setFlowState_of_none hw]
    | some flow =>
      obtain ⟨hpower, hmode⟩ := hc flow hw
      rw [setFlowState_of_some hw]
      simp only [command, hmode, hpower]
  · rw [h]
    exact iff_of_true rfl fun hs => absurd hs ht

/-- What a session does with a message that is not an ack. -/
theorem step_of_not_ack (hs : Session.step nodeId conv s m = some t) (ha : m.isAck = false) :
    t.node = (update conv s.node m).1 ∧
      t.commands = s.commands ++ if (update conv s.node m).2 then [command t.node] else [] := by
  obtain ⟨hnode, hacted, -⟩ := receive_of_not_ack nodeId conv s.node ha
  have ht : t = ⟨_, _⟩ := (Option.some.inj hs).symm
  subst t
  refine ⟨hnode, ?_⟩
  simp only [hacted, hnode]
  split <;> rfl

theorem step_of_ack (hs : Session.step nodeId conv s m = some t) (ha : m.isAck = true) : t = s := by
  have ht : t = ⟨_, _⟩ := (Option.some.inj hs).symm
  rw [ht, receive_ack ha]
  simp [commandsOf]

/-- The invariant of the runs that transmit every change. -/
structure UpToDate (s : Session) : Prop where
  consistent : Consistent s.node
  last : s.commands ≠ [] → s.commands.getLast? = some (command s.node)

theorem upToDate_boot : UpToDate .boot := ⟨consistent_boot, fun h => absurd rfl h⟩

theorem upToDate_step (h : UpToDate s) (hr : Transmitted s m t)
    (hs : Session.step nodeId conv s m = some t) : UpToDate t := by
  refine ⟨?_, hr.last⟩
  cases ha : m.isAck with
  | true =>
    rw [step_of_ack hs ha]
    exact h.consistent
  | false =>
    rw [(step_of_not_ack hs ha).1]
    exact consistent_update h.consistent

/-- One step transmits what it has to exactly when it does not select another fan speed. -/
theorem transmitted_iff_speedKept (h : UpToDate s) (hs : Session.step nodeId conv s m = some t) :
    Transmitted s m t ↔ SpeedKept s m := by
  cases ha : m.isAck with
  | true =>
    have ht := step_of_ack hs ha
    subst t
    refine iff_of_true ⟨fun hne => absurd rfl hne, h.last⟩ ?_
    intro hack
    rw [ha] at hack
    cases hack
  | false =>
    obtain ⟨hnode, hcommands⟩ := step_of_not_ack hs ha
    cases hu : (update conv s.node m).2 with
    | true =>
      rw [hu, if_pos rfl] at hcommands
      refine iff_of_true ⟨fun _ => ⟨_, hcommands, List.mem_singleton_self _⟩, ?_⟩ ?_
      · intro _
        rw [hcommands, List.getLast?_concat]
      · -- the speed branch never sets `changed`
        intro _ htype
        rw [update, if_pos htype] at hu
        cases hu
    | false =>
      rw [hu, if_neg Bool.false_ne_true, List.append_nil] at hcommands
      have hkept := command_update_eq_iff h.consistent hu
      rw [← hnode] at hkept
      constructor
      · intro hr _
        refine hkept.mp ?_
        by_contra hne
        obtain ⟨cs, hcs, hmem⟩ := hr.changed hne
        rw [hcommands, List.self_eq_append_right] at hcs
        rw [hcs] at hmem
        exact List.not_mem_nil hmem
      · intro hkeep
        have heq := hkept.mpr (hkeep ha)
        refine ⟨fun hne => absurd heq hne, ?_⟩
        rw [hcommands, heq]
        exact h.last

/-- A run transmits every change, and its last command always shows the settings, exactly
when no message of it selects another fan speed. -/
theorem everyStep_transmitted_iff (nodeId : Byte) (conv : FloatToInt) (ms : List MyMessage) :
    Machine.EveryStep (Session.step nodeId conv) Transmitted .boot ms ↔
      Machine.EveryStep (Session.step nodeId conv) (fun s m _ => SpeedKept s m) .boot ms :=
  Machine.everyStep_congr (fun _ _ _ h hr hs => upToDate_step h hr hs)
    (fun _ _ _ h hs => transmitted_iff_speedKept h hs) upToDate_boot

/-- A speed that is selected after a command is never transmitted. -/
theorem speed_not_transmitted : ∃ t,
    Machine.run (Session.step 42#8 .orZero) .boot
      [setMessage 42#8 (childIdHvac, vHvacSetpointCool) (ascii "22"),
        setMessage 42#8 (childIdHvac, vHvacSpeed) (ascii "max")] = some t ∧
    t.commands ≠ [] ∧ t.commands.getLast? ≠ some (command t.node) := by
  refine ⟨_, rfl, ?_, ?_⟩
  · decide +kernel
  · decide +kernel

end HeatPumpNode
