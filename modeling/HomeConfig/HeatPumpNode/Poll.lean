import HomeConfig.MySensors.Drain
import HomeConfig.HeatPumpNode.Vocabulary

/-! The wake-up poll: what becomes of the changes that a user makes while the node sleeps. -/
namespace HeatPumpNode

open Arduino MySensors

/-- A user's choice of a recognised value. -/
structure Change where
  item : Item
  text : List Byte
  recognised : item = setpointCool ∨ item = setpointHeat ∨
    item = speed ∧ speedOf (word text) ≠ none ∨
    item = flowState ∧ flowStateOf (word text) ≠ none

variable {nodeId : Byte} {conv : FloatToInt} {n : Node} {c : Controller} {changes : List Change}
  {w w' : Network Node Action} {m : MyMessage}

def deployment (nodeId : Byte) (conv : FloatToInt) : Deployment Node Unit Change Action where
  nodeId := nodeId
  loop n _ := loop nodeId n
  receive := receive nodeId conv
  command change := (change.item, change.text)

/-- What the controller stores after the changes. -/
def chosen (c : Controller) (changes : List Change) : Controller :=
  changes.foldl (fun c change => c.store change.item change.text) c

/-- The node has slept through the changes: their messages are lost. -/
def asleep (n : Node) (c : Controller) (changes : List Change) : Network Node Action :=
  { node := { n with waiting := false }, controller := chosen c changes }

/-- The setpoint that was chosen last, of either kind. -/
def lastSetpoint (changes : List Change) : Option Single :=
  changes.foldl (fun last change =>
    if change.item = setpointCool ∨ change.item = setpointHeat then some (number change.text)
    else last) none

/-- Two texts of one item mean the same choice. -/
def SameChoice (item : Item) (text text' : List Byte) : Prop :=
  if item = speed then speedOf (word text) = speedOf (word text')
  else if item = flowState then flowStateOf (word text) = flowStateOf (word text')
  else number text = number text'

/-- No change is lost: the node has the recognised values that were stored when it woke up
and the last setpoint, and the controller still stores every change. A flow state is kept in
the node's own terms, where auto change-over is heating: whether the change survives is asked
here, and not, as by `FlowState.asksMode`, whether the heat pump does what the word says. -/
structure Kept (c : Controller) (changes : List Change) (w : Network Node Action) : Prop where
  fan : ∀ f, speedOf (word ((chosen c changes).value speed)) = some f → w.node.fanState = f
  flow : ∀ g, flowStateOf (word ((chosen c changes).value flowState)) = some g →
    w.node.powerState = g.power ∧ ∀ mode, g.mode = some mode → w.node.modeState = mode
  setpoint : ∀ t, lastSetpoint changes = some t → w.node.tempState.toSingle = t
  stored : ∀ change ∈ changes, SameChoice change.item (w.controller.value change.item)
    ((chosen c changes).value change.item)

/-- Only setpoints were changed, each to the truncation of the stored V_HVAC_SETPOINT_HEAT,
and a node that still has to announce its initial values finds nothing else stored. -/
structure Safe (conv : FloatToInt) (n : Node) (c : Controller) (changes : List Change) : Prop where
  setpoints : ∀ change ∈ changes, change.item = setpointCool ∨ change.item = setpointHeat
  heat : ∀ change ∈ changes, number ((chosen c changes).value change.item) =
    (conv.toInt (number ((chosen c changes).value setpointHeat))).toSingle
  announced : n.initialValueSent = false →
    (∀ f, speedOf (word ((chosen c changes).value speed)) = some f → f = .speedAuto) ∧
    ∀ g, flowStateOf (word ((chosen c changes).value flowState)) = some g → g = .off

theorem sameChoice_speed {text text' : List Byte} :
    SameChoice speed text text' ↔ speedOf (word text) = speedOf (word text') := by
  rw [SameChoice, if_pos rfl]

theorem sameChoice_flowState {text text' : List Byte} :
    SameChoice flowState text text' ↔ flowStateOf (word text) = flowStateOf (word text') := by
  rw [SameChoice, if_neg (by decide), if_pos rfl]

theorem sameChoice_setpoint {item : Item} {text text' : List Byte}
    (h : item = setpointCool ∨ item = setpointHeat) :
    SameChoice item text text' ↔ number text = number text' := by
  rcases h with rfl | rfl
  · rw [SameChoice, if_neg (by decide), if_neg (by decide)]
  · rw [SameChoice, if_neg (by decide), if_neg (by decide)]

/-! ### What the user chose -/

theorem chosen_concat (change : Change) :
    chosen c (changes ++ [change]) = (chosen c changes).store change.item change.text := by
  simp [chosen]

/-- The stored value of a changed item is a recognised choice. -/
theorem chosen_of_mem {item : Item} (h : ∃ change ∈ changes, change.item = item) :
    ∃ change ∈ changes, change.item = item ∧ (chosen c changes).value item = change.text := by
  induction changes using List.reverseRecOn with
  | nil =>
    obtain ⟨change, hm, -⟩ := h
    cases hm
  | append_singleton changes last ih =>
    rw [chosen_concat]
    by_cases hl : last.item = item
    · refine ⟨last, by simp, hl, ?_⟩
      rw [← hl]
      exact Controller.value_store_self ..
    · obtain ⟨change, hm, hi⟩ := h
      have hm : change ∈ changes := by
        rcases List.mem_append.mp hm with hm | hm
        · exact hm
        · rw [List.mem_singleton.mp hm] at hi
          exact absurd hi hl
      obtain ⟨change', hm', hi', hv⟩ := ih ⟨change, hm, hi⟩
      refine ⟨change', List.mem_append_left _ hm', hi', ?_⟩
      rw [Controller.value_store_of_ne _ _ (Ne.symm hl), hv]

/-- The setpoint chosen last is the stored value of its item. -/
theorem lastSetpoint_eq_some {t : Single} (h : lastSetpoint changes = some t) :
    ∃ change ∈ changes, (change.item = setpointCool ∨ change.item = setpointHeat) ∧
      number ((chosen c changes).value change.item) = t := by
  induction changes using List.reverseRecOn with
  | nil => cases h
  | append_singleton changes last ih =>
    rw [lastSetpoint, List.foldl_append, List.foldl_cons, List.foldl_nil] at h
    rw [chosen_concat]
    split at h
    · rename_i hl
      refine ⟨last, by simp, hl, ?_⟩
      rw [Controller.value_store_self]
      exact Option.some.inj h
    · rename_i hl
      obtain ⟨change, hm, hi, hv⟩ := ih h
      have hne : change.item ≠ last.item := fun heq => hl (heq ▸ hi)
      refine ⟨change, List.mem_append_left _ hm, hi, ?_⟩
      rw [Controller.value_store_of_ne _ _ hne, hv]

/-! ### What the poll does -/

/-- What the controller stores once it has handled the initial report, if there is one. -/
def announced (n : Node) (c : Controller) : Controller :=
  if n.initialValueSent then c
  else ((c.store setpointCool (itoa 21)).store speed (ascii "auto")).store flowState (ascii "off")

/-- The node that has received the four stored values in the order of its requests. -/
def polled (conv : FloatToInt) (n : Node) (c : Controller) : Node :=
  ((({ n with initialValueSent := true, waiting := true }.setSpeed
    (word (c.value speed))).setSetpoint conv (number (c.value setpointCool))).setSetpoint conv
    (number (c.value setpointHeat))).setFlowState (word (c.value flowState))

theorem sent_sendInitialValue : sent (sendInitialValue nodeId n) =
    if n.initialValueSent then []
    else [report nodeId (msgHVACSetPointC.setInt 21),
      report nodeId (msgHVACSpeed.setString (ascii "auto")),
      report nodeId (msgHVACFlowState.setString (ascii "off"))] := by
  unfold sendInitialValue
  split
  · rfl
  · simp [send_registered]

theorem sent_requestUpdatedStateAndWait : sent (requestUpdatedStateAndWait nodeId) =
    [speed, setpointCool, setpointHeat, flowState].map fun i => inquiry nodeId i.1 i.2 := by
  simp [requestUpdatedStateAndWait, waitForStateToUpdate, request_registered, speed,
    setpointCool, setpointHeat, flowState]

theorem sent_poll (h : n.waiting = false) : sent (loop nodeId n).2 =
    sent (sendInitialValue nodeId n) ++ sent (requestUpdatedStateAndWait nodeId) := by
  simp [loop, h, waitForStateToUpdate]

theorem reportsOnly_deployment : Network.ReportsOnly (deployment nodeId conv) := by
  intro n m q hq
  change q ∈ sent (receive nodeId conv n m).2 at hq
  cases ha : m.isAck with
  | true =>
    rw [receive_ack ha] at hq
    cases hq
  | false =>
    rw [(receive_of_not_ack nodeId conv n ha).2.2, sent_sendNewStateToGateway] at hq
    simp only [List.mem_cons, List.not_mem_nil, or_false] at hq
    rcases hq with rfl | rfl | rfl | rfl
    · exact getCommand_report
    · exact getCommand_report
    · exact getCommand_report
    · exact getCommand_report

/-- The poll: the initial report is stored, the requests are answered with what is stored
then. -/
theorem future_poll (h : n.waiting = false) : Network.future
    (Network.loop (deployment nodeId conv) { node := n, controller := c } ()) =
      [speed, setpointCool, setpointHeat, flowState].map fun i =>
        setMessage nodeId i ((announced n c).value i) := by
  have hauto : MyMessage.Fits (ascii "auto") := ⟨by decide, by decide⟩
  have hoff : MyMessage.Fits (ascii "off") := ⟨by decide, by decide⟩
  change [].map Prod.snd ++ (c.handleAll ([] ++ sent (loop nodeId n).2)).2 = _
  rw [List.map_nil, List.nil_append, List.nil_append, sent_poll h, sent_sendInitialValue,
    sent_requestUpdatedStateAndWait, Controller.handleAll_append]
  unfold announced
  cases n.initialValueSent with
  | true =>
    simp only [if_true, Controller.handleAll, List.nil_append]
    rw [Controller.handleAll_inquiries]
  | false =>
    simp only [Bool.false_eq_true, if_false]
    rw [Controller.handleAll_reports, List.nil_append, Controller.handleAll_inquiries]
    · simp only [List.foldl_cons, List.foldl_nil, getString_report,
        MyMessage.getString_setString hauto, MyMessage.getString_setString hoff,
        MyMessage.getString_setInt (show (-32768 : ℤ) ≤ 21 by decide) (by decide)]
      rfl
    · intro m hm
      simp only [List.mem_cons, List.not_mem_nil, or_false] at hm
      rcases hm with rfl | rfl | rfl
      · exact getCommand_report
      · exact getCommand_report
      · exact getCommand_report

theorem outcome_poll (h : n.waiting = false) : Network.outcome (deployment nodeId conv)
    (Network.loop (deployment nodeId conv) { node := n, controller := c } ()) =
      polled conv n (announced n c) := by
  have hnode : (loop nodeId n).1 = { n with initialValueSent := true, waiting := true } := by
    simp [loop, h]
  rw [Network.outcome, future_poll h]
  change List.foldl (fun n m => (receive nodeId conv n m).1) (loop nodeId n).1 _ = _
  rw [hnode]
  simp only [List.map_cons, List.map_nil, List.foldl_cons, List.foldl_nil]
  rw [receive_speed, receive_setpoint (Or.inl rfl), receive_setpoint (Or.inr rfl),
    receive_flowState]
  rfl

/-- The controller stores the codes of the node's settings. -/
structure Reported (n : Node) (c : Controller) : Prop where
  cool : c.value setpointCool = itoa n.tempState.val
  heat : c.value setpointHeat = itoa n.tempState.val
  speed : c.value speed = itoa n.fanState.code
  flow : c.value flowState = itoa n.modeState.code

theorem Reported.number_setpoint {item : Item} (h : Reported n c)
    (hi : item = setpointCool ∨ item = setpointHeat) :
    number (c.value item) = n.tempState.toSingle := by
  rcases hi with rfl | rfl
  · rw [h.cool, number_itoa]
  · rw [h.heat, number_itoa]

theorem reported_receive (ha : m.isAck = false) : Reported (receive nodeId conv n m).1
    ((sent (receive nodeId conv n m).2).foldl (fun c m => c.store (itemOf m) m.getString) c) := by
  obtain ⟨hnode, -, hsent⟩ := receive_of_not_ack nodeId conv n ha
  rw [hsent, ← hnode, sent_sendNewStateToGateway]
  simp only [List.foldl_cons, List.foldl_nil, getString_report, getString_setInt_temp,
    getString_setInt_fan, getString_setInt_mode]
  refine ⟨?_, ?_, ?_, ?_⟩ <;> rfl

/-- However the channels drain, the node has been polled and its settings are stored. -/
theorem drained_poll {es : List (Event Unit Change)} (h : n.waiting = false)
    (hrun : Machine.run (Network.step (deployment nodeId conv)) { node := n, controller := c }
      (.loop () :: es) = some w)
    (hes : ∀ e ∈ es, Network.Draining e) (hu : w.uplink = []) (hd : w.downlink = []) :
    w.node = polled conv n (announced n c) ∧ Reported w.node w.controller := by
  obtain ⟨w₁, hloop, hrun⟩ := Machine.run_cons_eq_some.mp hrun
  obtain rfl : _ = w₁ := Option.some.inj hloop
  obtain ⟨hfuture, houtcome, hsettled⟩ := Network.outcome_of_empty (d := deployment nodeId conv) hu hd
  constructor
  · rw [← houtcome, Network.outcome_run reportsOnly_deployment hes hrun, outcome_poll h]
  · have hstart : Network.future (Network.loop (deployment nodeId conv)
        { node := n, controller := c } ()) = _ := future_poll h
    have hne : Network.future (Network.loop (deployment nodeId conv)
        { node := n, controller := c } ()) ≠ [] := by
      rw [hstart]
      exact List.cons_ne_nil _ _
    have hack : ∀ m ∈ Network.future (Network.loop (deployment nodeId conv)
        { node := n, controller := c } ()), m.isAck = false := by
      intro m hm
      rw [hstart] at hm
      obtain ⟨i, -, rfl⟩ := List.mem_map.mp hm
      exact isAck_setMessage
    obtain hfuture' | hreported := Network.settled_run (P := Reported)
      (Q := fun m => m.isAck = false) reportsOnly_deployment
      (fun n m c ha => reported_receive ha) hes hne hack hrun
    · exact absurd hfuture hfuture'
    · rwa [hsettled] at hreported

/-! ### The polled settings -/

theorem polled_fan {f : HvacFanMode} (h : speedOf (word (c.value speed)) = some f) :
    (polled conv n c).fanState = f := by
  rw [polled, setSpeed_of_some h]
  cases hw : flowStateOf (word (c.value flowState)) with
  | none => rw [setFlowState_of_none hw]; rfl
  | some g => rw [setFlowState_of_some hw]; rfl

/-- Both setpoints share one variable and the heating one comes last. -/
theorem polled_temp :
    (polled conv n c).tempState = conv.toInt (number (c.value setpointHeat)) := by
  rw [polled]
  cases hw : flowStateOf (word (c.value flowState)) with
  | none => rw [setFlowState_of_none hw]; rfl
  | some g => rw [setFlowState_of_some hw]; rfl

theorem polled_flow {g : FlowState} (h : flowStateOf (word (c.value flowState)) = some g) :
    (polled conv n c).powerState = g.power ∧
      ∀ mode, g.mode = some mode → (polled conv n c).modeState = mode := by
  rw [polled, setFlowState_of_some h]
  refine ⟨rfl, ?_⟩
  intro mode hm
  simp [hm]

theorem announced_heat : (announced n c).value setpointHeat = c.value setpointHeat := by
  have hflow : setpointHeat ≠ flowState := by decide
  have hspeed : setpointHeat ≠ speed := by decide
  have hcool : setpointHeat ≠ setpointCool := by decide
  unfold announced
  split
  · rfl
  · rw [Controller.value_store_of_ne _ _ hflow, Controller.value_store_of_ne _ _ hspeed,
      Controller.value_store_of_ne _ _ hcool]

theorem announced_of_sent (h : n.initialValueSent = true) : announced n c = c := if_pos h

theorem announced_of_not_sent (h : n.initialValueSent = false) :
    speedOf (word ((announced n c).value speed)) = some .speedAuto ∧
      flowStateOf (word ((announced n c).value flowState)) = some .off := by
  have hspeed : speed ≠ flowState := by decide
  have hannounced : announced n c =
      ((c.store setpointCool (itoa 21)).store speed (ascii "auto")).store flowState (ascii "off") := by
    rw [announced, if_neg (by simp [h])]
  rw [hannounced, Controller.value_store_self, Controller.value_store_of_ne _ _ hspeed,
    Controller.value_store_self]
  constructor
  · decide
  · decide

/-! ### Which changes survive -/

/-- A change of speed or flow state does not survive: the report replaces the word. -/
theorem safe_of_kept (hnode : w.node = polled conv n (announced n (chosen c changes)))
    (hreported : Reported w.node w.controller) (h : Kept c changes w) : Safe conv n c changes := by
  have htemp : w.node.tempState = conv.toInt (number ((chosen c changes).value setpointHeat)) := by
    rw [hnode, polled_temp, announced_heat]
  have hsetpoints : ∀ change ∈ changes,
      change.item = setpointCool ∨ change.item = setpointHeat := by
    intro change hm
    have hstored := h.stored change hm
    obtain ⟨change', -, hi, hv⟩ := chosen_of_mem ⟨change, hm, rfl⟩
    rcases change'.recognised with hr | hr | ⟨hr, hw⟩ | ⟨hr, hw⟩
    · exact Or.inl (hi ▸ hr)
    · exact Or.inr (hi ▸ hr)
    · have hspeed : change.item = speed := hi ▸ hr
      rw [hspeed, sameChoice_speed, hreported.speed, speedOf_code, ← hspeed, hv] at hstored
      exact absurd hstored.symm hw
    · have hflow : change.item = flowState := hi ▸ hr
      rw [hflow, sameChoice_flowState, hreported.flow, flowStateOf_code, ← hflow, hv] at hstored
      exact absurd hstored.symm hw
  refine ⟨hsetpoints, ?_, ?_⟩
  · intro change hm
    have hi := hsetpoints change hm
    have hstored := (sameChoice_setpoint hi).mp (h.stored change hm)
    rw [← htemp, ← hstored, hreported.number_setpoint hi]
  · intro hsent
    obtain ⟨hauto, hoff⟩ := announced_of_not_sent (c := chosen c changes) hsent
    constructor
    · intro f hf
      rw [← h.fan f hf, hnode, polled_fan hauto]
    · intro g hg
      have hpower := (h.flow g hg).1
      rw [hnode, (polled_flow hoff).1] at hpower
      cases g with
      | off => rfl
      | coolOn => exact absurd hpower (by decide)
      | heatOn => exact absurd hpower (by decide)
      | autoChangeOver => exact absurd hpower (by decide)

theorem kept_of_safe (hnode : w.node = polled conv n (announced n (chosen c changes)))
    (hreported : Reported w.node w.controller) (h : Safe conv n c changes) : Kept c changes w := by
  have htemp : w.node.tempState = conv.toInt (number ((chosen c changes).value setpointHeat)) := by
    rw [hnode, polled_temp, announced_heat]
  refine ⟨?_, ?_, ?_, ?_⟩
  · intro f hf
    cases hsent : n.initialValueSent with
    | true =>
      rw [hnode, announced_of_sent hsent, polled_fan hf]
    | false =>
      rw [hnode, polled_fan (announced_of_not_sent hsent).1, (h.announced hsent).1 f hf]
  · intro g hg
    cases hsent : n.initialValueSent with
    | true =>
      rw [hnode, announced_of_sent hsent]
      exact polled_flow hg
    | false =>
      rw [hnode, (h.announced hsent).2 g hg]
      exact polled_flow (announced_of_not_sent hsent).2
  · intro t ht
    obtain ⟨change, hm, -, hv⟩ := lastSetpoint_eq_some ht
    rw [htemp, ← h.heat change hm, hv]
  · intro change hm
    have hi := h.setpoints change hm
    rw [sameChoice_setpoint hi, hreported.number_setpoint hi, htemp, h.heat change hm]

/-- However the poll is interleaved, no change is lost exactly when the changes are safe. -/
theorem kept_iff_safe {es : List (Event Unit Change)}
    (hrun : Machine.run (Network.step (deployment nodeId conv)) (asleep n c changes)
      (.loop () :: es) = some w)
    (hes : ∀ e ∈ es, Network.Draining e) (hu : w.uplink = []) (hd : w.downlink = []) :
    Kept c changes w ↔ Safe conv n c changes := by
  obtain ⟨hnode, hreported⟩ := drained_poll rfl hrun hes hu hd
  have hnode : w.node = polled conv n (announced n (chosen c changes)) := hnode
  exact ⟨safe_of_kept hnode hreported, kept_of_safe hnode hreported⟩

/-- A node in its sleep. -/
def sleeper : Node := { Node.boot with initialValueSent := true, waiting := true }

/-- A controller that stores 18 for everything. -/
def eighteen : Controller := ⟨fun _ => ascii "18"⟩

/-- The poll, then the replies, then the reports. -/
def pollAndDrain : List (Event Unit Change) :=
  .loop () :: (List.replicate 4 .answer ++ List.replicate 4 .deliver ++ List.replicate 16 .answer)

/-- The poll after one change. -/
def pollAfter (change : Change) : Option (Network Node Action) :=
  Machine.run (Network.step (deployment 42#8 .orZero)) (asleep sleeper eighteen [change])
    pollAndDrain

def heatChange : Change := ⟨setpointHeat, ascii "22", Or.inr (Or.inl rfl)⟩
def coolChange : Change := ⟨setpointCool, ascii "22", Or.inl rfl⟩
def speedChange : Change := ⟨speed, ascii "max", by decide⟩

theorem pollAfter_heat : (pollAfter heatChange).isSome := by decide +kernel
theorem pollAfter_cool : (pollAfter coolChange).isSome := by decide +kernel
theorem pollAfter_speed : (pollAfter speedChange).isSome := by decide +kernel

theorem kept_iff_safe_heat : ∃ w, pollAfter heatChange = some w ∧
    (Kept eighteen [heatChange] w ↔ Safe .orZero sleeper eighteen [heatChange]) := by
  refine ⟨_, (Option.some_get pollAfter_heat).symm, ?_⟩
  exact kept_iff_safe (Option.some_get pollAfter_heat).symm (by decide) (by decide +kernel)
    (by decide +kernel)

/-- A cooling setpoint is overwritten by the stored heating one, and a speed by its code. -/
theorem change_lost :
    (∃ w, pollAfter coolChange = some w ∧ w.uplink = [] ∧ w.downlink = [] ∧
      ¬ Kept eighteen [coolChange] w) ∧
    ∃ w, pollAfter speedChange = some w ∧ w.uplink = [] ∧ w.downlink = [] ∧
      ¬ Kept eighteen [speedChange] w := by
  constructor
  · refine ⟨_, (Option.some_get pollAfter_cool).symm, by decide +kernel, by decide +kernel, ?_⟩
    intro h
    exact absurd (h.setpoint (.finite 22) (by decide +kernel)) (by decide +kernel)
  · refine ⟨_, (Option.some_get pollAfter_speed).symm, by decide +kernel, by decide +kernel, ?_⟩
    intro h
    have hstored : speedOf _ = speedOf _ := h.stored speedChange List.mem_cons_self
    exact absurd hstored (by decide +kernel)

end HeatPumpNode
