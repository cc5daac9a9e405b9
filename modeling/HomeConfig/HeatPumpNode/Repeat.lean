import HomeConfig.HeatPumpNode.Asked

/-! Messages that change nothing, and messages that arrive twice: when they make the unit beep. -/
namespace HeatPumpNode

open Arduino MySensors

variable {nodeId : Byte} {conv : FloatToInt} {n : Node} {m : MyMessage}

/-- The infrared commands that a message causes. -/
def transmitted (nodeId : Byte) (conv : FloatToInt) (n : Node) (m : MyMessage) : List HvacCommand :=
  commandsOf (acted (receive nodeId conv n m).2)

/-- A message that leaves the settings alone transmits nothing, and a message that is
delivered twice in a row transmits at most once. -/
structure Quiet (nodeId : Byte) (conv : FloatToInt) (n : Node) (m : MyMessage) : Prop where
  unchanged : SameSettings (receive nodeId conv n m).1 n → transmitted nodeId conv n m = []
  repeated : (transmitted nodeId conv n m ++
    transmitted nodeId conv (receive nodeId conv n m).1 m).length ≤ 1

/-- The comparisons of `receive` are right about the message: a setpoint is a whole number,
and a flow state that is not the remembered text is a word for another power or mode. -/
structure Comparable (n : Node) (m : MyMessage) : Prop where
  setpoint : m.type = vHvacSetpointCool ∨ m.type = vHvacSetpointHeat →
    ∃ k : ℤ, -32768 ≤ k ∧ k ≤ 32767 ∧ m.getFloat = .finite k
  flowState : m.type = vHvacFlowState → recvData m ≠ n.modeStateString →
    ∃ flow, flowStateOf (recvData m) = some flow ∧
      ¬ (flow.power = n.powerState ∧ flow.mode.getD n.modeState = n.modeState)

/-! ### What is transmitted -/

theorem transmitted_ack (ha : m.isAck = true) : transmitted nodeId conv n m = [] := by
  rw [transmitted, receive_ack ha]
  rfl

theorem transmitted_of_differs (ha : m.isAck = false) (hd : Differs n m) :
    transmitted nodeId conv n m = [command (receive nodeId conv n m).1] := by
  obtain ⟨hnode, hacted, -⟩ := receive_of_not_ack nodeId conv n ha
  rw [transmitted, hacted, if_pos (changed_iff_differs.mpr hd), hnode]
  rfl

theorem transmitted_of_not_differs (ha : m.isAck = false) (hd : ¬ Differs n m) :
    transmitted nodeId conv n m = [] := by
  obtain ⟨-, hacted, -⟩ := receive_of_not_ack nodeId conv n ha
  rw [transmitted, hacted, if_neg fun hu => hd (changed_iff_differs.mp hu)]
  rfl

theorem transmitted_eq_nil_iff (ha : m.isAck = false) :
    transmitted nodeId conv n m = [] ↔ ¬ Differs n m := by
  constructor
  · intro h hd
    rw [transmitted_of_differs ha hd] at h
    cases h
  · exact transmitted_of_not_differs ha

theorem length_transmitted_le : (transmitted nodeId conv n m).length ≤ 1 := by
  cases ha : m.isAck with
  | true =>
    rw [transmitted_ack ha]
    exact Nat.zero_le 1
  | false =>
    by_cases hd : Differs n m
    · rw [transmitted_of_differs ha hd]
      exact le_rfl
    · rw [transmitted_of_not_differs ha hd]
      exact Nat.zero_le 1

/-- Of two deliveries both transmit, or at most one command goes out. -/
theorem length_twice_le_iff (ha : m.isAck = false) :
    (transmitted nodeId conv n m ++
        transmitted nodeId conv (receive nodeId conv n m).1 m).length ≤ 1 ↔
      (Differs n m → ¬ Differs (receive nodeId conv n m).1 m) := by
  rw [List.length_append]
  constructor
  · intro hlen hd hd'
    rw [transmitted_of_differs ha hd, transmitted_of_differs ha hd'] at hlen
    simp at hlen
  · intro h
    by_cases hd : Differs n m
    · rw [transmitted_of_not_differs ha (h hd)]
      simpa using length_transmitted_le
    · rw [transmitted_of_not_differs ha hd]
      simpa using length_transmitted_le

/-- A quiet message, if it is transmitted, changes a setting and no longer differs then. -/
theorem quiet_iff (ha : m.isAck = false) : Quiet nodeId conv n m ↔
    (Differs n m → ¬ SameSettings (receive nodeId conv n m).1 n ∧
      ¬ Differs (receive nodeId conv n m).1 m) := by
  constructor
  · intro hq hd
    exact ⟨fun hsame => (transmitted_eq_nil_iff ha).mp (hq.unchanged hsame) hd,
      (length_twice_le_iff ha).mp hq.repeated hd⟩
  · intro h
    refine ⟨?_, (length_twice_le_iff ha).mpr fun hd => (h hd).2⟩
    intro hsame
    exact (transmitted_eq_nil_iff ha).mpr fun hd => (h hd).1 hsame

/-! ### Setpoints and flow states -/

theorem ne_toSingle_iff {x : Single} {t : AvrInt} : Single.ne x t.toSingle = true ↔ x ≠ t.toSingle := by
  rw [AvrInt.toSingle_eq]
  cases x with
  | nan => simp [Single.ne]
  | _ => simp [Single.ne]

theorem differs_setpoint (ht : m.type = vHvacSetpointCool ∨ m.type = vHvacSetpointHeat) :
    Differs n m ↔ m.getFloat ≠ n.tempState.toSingle := by
  simp only [Differs, ht, (types_of_setpoint ht).2, true_and, false_and, or_false, ne_toSingle_iff]

theorem differs_flowState (ht : m.type = vHvacFlowState) :
    Differs n m ↔ recvData m ≠ n.modeStateString := by
  have hsetpoint := (types_of_flowState ht).2
  simp only [Differs, hsetpoint, false_and, false_or]
  exact and_iff_right ht

theorem not_differs_of_other (hc : m.type ≠ vHvacSetpointCool) (hh : m.type ≠ vHvacSetpointHeat)
    (hf : m.type ≠ vHvacFlowState) : ¬ Differs n m := by
  simp [Differs, hc, hh, hf]

theorem quiet_of_not_differs (ha : m.isAck = false) (hd : ¬ Differs n m) :
    Quiet nodeId conv n m :=
  (quiet_iff ha).mpr fun h => absurd h hd

theorem quiet_setpoint_iff (ha : m.isAck = false)
    (ht : m.type = vHvacSetpointCool ∨ m.type = vHvacSetpointHeat) :
    Quiet nodeId conv n m ↔ ∃ k : ℤ, -32768 ≤ k ∧ k ≤ 32767 ∧ m.getFloat = .finite k := by
  have hnode : (receive nodeId conv n m).1 = n.setSetpoint conv m.getFloat := by
    rw [(receive_of_not_ack nodeId conv n ha).1, update_setpoint ht]
  rw [quiet_iff ha, differs_setpoint ht, differs_setpoint ht, not_not, hnode,
    ← FloatToInt.toSingle_toInt_iff (c := conv)]
  constructor
  · intro hq
    by_contra hne
    -- a value that is not whole differs from every setpoint the node can hold
    have hfirst : m.getFloat ≠ n.tempState.toSingle := by
      intro h
      apply hne
      rw [h, FloatToInt.toInt_toSingle]
    exact hne (hq hfirst).2.symm
  · intro hwhole hfirst
    refine ⟨?_, hwhole.symm⟩
    rintro ⟨htemp, -⟩
    rw [← htemp] at hfirst
    exact hfirst hwhole.symm

theorem quiet_flowState_iff (ha : m.isAck = false) (ht : m.type = vHvacFlowState) :
    Quiet nodeId conv n m ↔ (recvData m ≠ n.modeStateString →
      ∃ flow, flowStateOf (recvData m) = some flow ∧
        ¬ (flow.power = n.powerState ∧ flow.mode.getD n.modeState = n.modeState)) := by
  have hnode : (receive nodeId conv n m).1 = n.setFlowState (recvData m) := by
    rw [(receive_of_not_ack nodeId conv n ha).1, update_flowState ht]
  rw [quiet_iff ha, differs_flowState ht, differs_flowState ht, hnode]
  refine imp_congr_right fun hword => ?_
  cases hflow : flowStateOf (recvData m) with
  | none =>
    -- an unknown text is not remembered, so it differs again
    rw [setFlowState_of_none hflow]
    exact iff_of_false (fun h => h.2 hword) (by simp)
  | some flow =>
    rw [setFlowState_of_some hflow]
    constructor
    · rintro ⟨hchange, -⟩
      refine ⟨flow, rfl, ?_⟩
      rintro ⟨hpower, hmode⟩
      exact hchange ⟨rfl, rfl, hmode, hpower⟩
    · rintro ⟨flow', hflow', hchange⟩
      obtain rfl := Option.some.inj hflow'
      exact ⟨fun hsame => hchange ⟨hsame.power, hsame.mode⟩, not_not.mpr rfl⟩

/-- In every state that messages lead to, a message is quiet exactly when it is an ack or
the comparisons are right about it. -/
theorem quiet_iff_comparable (nodeId : Byte) (conv : FloatToInt) (ms : List MyMessage)
    (m : MyMessage) :
    Quiet nodeId conv (deliverAll nodeId conv .boot ms) m ↔
      m.isAck = true ∨ Comparable (deliverAll nodeId conv .boot ms) m := by
  cases ha : m.isAck with
  | true =>
    refine iff_of_true ⟨fun _ => transmitted_ack ha, ?_⟩ (.inl rfl)
    rw [transmitted_ack ha, transmitted_ack ha]
    exact Nat.zero_le 1
  | false =>
    rw [or_iff_right Bool.false_ne_true]
    generalize deliverAll nodeId conv .boot ms = n
    obtain ⟨ht, -⟩ | ⟨ht, -⟩ | ⟨ht, -⟩ | ⟨⟨-, hc, hh, hf⟩, -⟩ := update_cases conv n m
    · obtain ⟨hsetpoint, hflow⟩ := types_of_speed ht
      obtain ⟨hc, hh⟩ := not_or.mp hsetpoint
      exact iff_of_true (quiet_of_not_differs ha (not_differs_of_other hc hh hflow))
        ⟨fun h => absurd h hsetpoint, fun h => absurd h hflow⟩
    · rw [quiet_setpoint_iff ha ht]
      constructor
      · intro h
        exact ⟨fun _ => h, fun hf => absurd hf (types_of_setpoint ht).2⟩
      · intro h
        exact h.setpoint ht
    · rw [quiet_flowState_iff ha ht]
      constructor
      · intro h
        exact ⟨fun hs => absurd hs (types_of_flowState ht).2, fun _ => h⟩
      · intro h
        exact h.flowState ht
    · exact iff_of_true (quiet_of_not_differs ha (not_differs_of_other hc hh hf))
        ⟨fun h => absurd h (not_or.mpr ⟨hc, hh⟩), fun h => absurd h hf⟩

/-- A setpoint of 22.5 is transmitted as often as it arrives. -/
theorem fraction_transmitted_twice :
    (transmitted 42#8 .orZero .boot (setMessage 42#8 setpointCool (ascii "22.5")) ++
      transmitted 42#8 .orZero
        (receive 42#8 .orZero .boot (setMessage 42#8 setpointCool (ascii "22.5"))).1
        (setMessage 42#8 setpointCool (ascii "22.5"))).length = 2 ∧
    ¬ ∀ (nodeId : Byte) (conv : FloatToInt) (ms : List MyMessage) (m : MyMessage),
      Quiet nodeId conv (deliverAll nodeId conv .boot ms) m := by
  have htwice : (transmitted 42#8 .orZero .boot (setMessage 42#8 setpointCool (ascii "22.5")) ++
      transmitted 42#8 .orZero
        (receive 42#8 .orZero .boot (setMessage 42#8 setpointCool (ascii "22.5"))).1
        (setMessage 42#8 setpointCool (ascii "22.5"))).length = 2 := by decide +kernel
  refine ⟨htwice, ?_⟩
  intro h
  have hlen := (h 42#8 .orZero [] (setMessage 42#8 setpointCool (ascii "22.5"))).repeated
  rw [deliverAll, List.foldl_nil, htwice] at hlen
  omega

end HeatPumpNode
