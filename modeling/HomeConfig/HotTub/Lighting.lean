import HomeConfig.Library.Machine
import HomeConfig.HotTub.Sketch

/-! The lighting protocol: when nothing is in flight, relay and controller agree. -/
namespace HotTub

open Arduino MySensors

variable {nodeId : Byte} {n : Node} {r : Readings} {xs ys : List MyMessage}
  {w w' : Network Node Action} {e : Event Readings Bool}

def lighting : Item := (childIdLightStatus, vStatus)

/-- The text of a stored boolean. -/
def boolText (b : Bool) : List Byte := if b then ascii "1" else ascii "0"

/-- The monitor with a user who switches the light. -/
def deployment (nodeId : Byte) : Deployment Node Readings Bool Action where
  nodeId := nodeId
  loop := loop nodeId
  receive := receive
  command on := (lighting, boolText on)

def boot (controller : Controller) (stored : Bool) : Network Node Action :=
  { node := .boot, controller := controller.store lighting (boolText stored) }

/-- The level of the lighting relay pin. -/
def lightingRelay (w : Network Node Action) : Bool := level lightingRelayPin false w.log

/-- The boolean that the controller remembers for the light. -/
def storedLight (w : Network Node Action) : Bool := w.controller.value lighting == boolText true

/-- The last light setting on its way to the node or, when there is none, the relay's. -/
def lastSetting (w : Network Node Action) : Bool :=
  match w.downlink.getLast? with
  | some p => p.2.getBool
  | none => lightingRelay w

/-- Every report of the light is followed by a request for it. -/
def Answered : List MyMessage → Prop
  | [] => True
  | m :: rest =>
    (m.getCommand = cSet → itemOf m = lighting → ∃ q ∈ rest, q.getCommand = cReq) ∧ Answered rest

theorem answered_append (hx : Answered xs) (hy : Answered ys) : Answered (xs ++ ys) := by
  induction xs with
  | nil => exact hy
  | cons m xs ih =>
    obtain ⟨hm, hx⟩ := hx
    refine ⟨?_, ih hx⟩
    intro hs hi
    obtain ⟨q, hq, hc⟩ := hm hs hi
    exact ⟨q, List.mem_append_left ys hq, hc⟩

theorem answered_of_other (h : ∀ m ∈ xs, itemOf m ≠ lighting) : Answered xs := by
  induction xs with
  | nil => trivial
  | cons m xs ih =>
    refine ⟨?_, ih fun m' hm' => h m' (List.mem_cons_of_mem m hm')⟩
    intro _ hi
    exact absurd hi (h m List.mem_cons_self)

/-! ### What the callbacks do -/

theorem getBool_setMessage (item : Item) (b : Bool) :
    (setMessage nodeId item (boolText b)).getBool = b := by
  have hfits : MyMessage.Fits (boolText b) := by
    cases b
    · exact ⟨by decide, by decide⟩
    · exact ⟨by decide, by decide⟩
  have hbyte : (setMessage nodeId item (boolText b)).getByte =
      BitVec.ofInt 8 (atoi (MyMessage.onWire (boolText b))) := MyMessage.getByte_setString _
  rw [MyMessage.getBool, hbyte, MyMessage.onWire_of_fits hfits]
  cases b <;> decide

theorem sent_sendInitialRelayState : sent (sendInitialRelayState nodeId n) =
    if n.initialRelayStateSent then []
    else [report nodeId (msgLightingStatus.setBool lightingOff),
      inquiry nodeId childIdLightStatus vStatus] := by
  unfold sendInitialRelayState
  split
  · rfl
  · simp [send_registered, request_registered]

theorem sent_transmitTemperatures : sent (transmitTemperatures nodeId r) =
    [report nodeId (msgIntakeTemp.setFloat r.intake 2#8),
      report nodeId (msgOutletTemp.setFloat r.outlet 2#8)] := by
  simp [transmitTemperatures, send_registered]

/-- A loop half either starts the handshake, or sends no request and no report of the light. -/
theorem sent_loop (nodeId : Byte) (n : Node) (r : Readings) :
    (n.waiting = false ∧ n.initialRelayStateSent = false ∧
      sent (loop nodeId n r).2 = [report nodeId (msgLightingStatus.setBool lightingOff),
        inquiry nodeId childIdLightStatus vStatus]) ∨
    ((n.waiting = true ∨ n.initialRelayStateSent = true) ∧
      ∀ m ∈ sent (loop nodeId n r).2, m.getCommand = cSet ∧ itemOf m ≠ lighting) := by
  unfold loop
  cases hw : n.waiting with
  | true =>
    right
    refine ⟨Or.inl rfl, ?_⟩
    intro m hm
    simp only [if_true, sent_append, sent_transmitTemperatures, sent_device, sent_nil,
      List.append_nil, List.mem_cons, List.not_mem_nil, or_false] at hm
    have hintake : (childIdIntakeTemp, vTemp) ≠ lighting := by decide
    have houtlet : (childIdOutletTemp, vTemp) ≠ lighting := by decide
    rcases hm with rfl | rfl
    · exact ⟨getCommand_report, hintake⟩
    · exact ⟨getCommand_report, houtlet⟩
  | false =>
    cases hf : n.initialRelayStateSent with
    | true =>
      right
      refine ⟨Or.inr rfl, ?_⟩
      intro m hm
      simp [sent_sendInitialRelayState, hf] at hm
    | false =>
      left
      refine ⟨rfl, rfl, ?_⟩
      simp [sent_sendInitialRelayState, hf]

/-- The loop does not touch the relay. -/
theorem loop_untouched : Untouched lightingRelayPin (acted (loop nodeId n r).2) := by
  intro v hv
  unfold loop transmitTemperatures sendInitialRelayState at hv
  split at hv
  · simp at hv
  · split at hv <;> simp at hv

@[simp] theorem loop_initialRelayStateSent :
    (loop nodeId n r).1.initialRelayStateSent = n.initialRelayStateSent := by
  unfold loop
  split <;> rfl

theorem receive_status {message : MyMessage} (ht : message.type = vStatus) :
    receive n message = ({ n with initialRelayStateSent := true },
      [.device (.digitalWrite lightingRelayPin message.getBool)]) := by
  cases hb : message.getBool <;> simp [receive, ht, hb, lightingOn, lightingOff]

/-! ### The invariant -/

/-- What holds in every reachable state. A request that is still to be answered repairs
every disagreement, so agreement is only claimed when there is none. -/
structure Synchronized (w : Network Node Action) : Prop where
  stored_bool : ∃ b, w.controller.value lighting = boolText b
  downlink_type : ∀ p ∈ w.downlink, p.2.type = vStatus
  request_item : ∀ m ∈ w.uplink, m.getCommand = cReq → itemOf m = lighting
  report_off : ∀ m ∈ w.uplink, m.getCommand = cSet → itemOf m = lighting →
    m.getString = boolText false
  answered : Answered w.uplink
  flag_delivered : w.node.initialRelayStateSent = true → w.delivered ≠ []
  started : 1 ≤ w.iterations →
    (∃ m ∈ w.uplink, m.getCommand = cReq) ∨ w.downlink ≠ [] ∨ w.delivered ≠ []
  waiting_started : w.node.waiting = true → 1 ≤ w.iterations
  agree : (∀ m ∈ w.uplink, m.getCommand ≠ cReq) → w.downlink ≠ [] ∨ w.delivered ≠ [] →
    lastSetting w = storedLight w

theorem storedLight_of_value {b : Bool} (h : w.controller.value lighting = boolText b) :
    storedLight w = b := by
  unfold storedLight
  rw [h]
  cases b <;> decide

theorem synchronized_boot {controller : Controller} {stored : Bool} :
    Synchronized (boot controller stored) where
  stored_bool := ⟨stored, Controller.value_store_self ..⟩
  downlink_type := by simp [boot]
  request_item := by simp [boot]
  report_off := by simp [boot]
  answered := trivial
  flag_delivered := by simp [boot, Node.boot]
  started := by simp [boot]
  waiting_started := by simp [boot, Node.boot]
  agree := by simp [boot]

theorem lastSetting_of_nil (h : w.downlink = []) : lastSetting w = lightingRelay w := by
  simp [lastSetting, h]

theorem lastSetting_of_concat {before : List (Origin × MyMessage)} {p : Origin × MyMessage}
    (h : w.downlink = before ++ [p]) : lastSetting w = p.2.getBool := by
  simp [lastSetting, h]

/-- A loop half leaves pin, stored value and downlink alone. -/
theorem lightingRelay_loop :
    lightingRelay (w.loop (deployment nodeId) r) = lightingRelay w := by
  change level _ _ (w.log ++ acted (loop nodeId w.node r).2) = _
  rw [level_append, loop_untouched.level_pulses.1]
  rfl

theorem lastSetting_loop : lastSetting (w.loop (deployment nodeId) r) = lastSetting w := by
  have hd : (w.loop (deployment nodeId) r).downlink = w.downlink := rfl
  unfold lastSetting
  rw [hd, lightingRelay_loop]

/-- A loop half keeps the invariant when what it sends fits the uplink and the handshake is
under way afterwards. -/
theorem synchronized_loop_of (h : Synchronized w)
    (hrequest : ∀ m ∈ sent (loop nodeId w.node r).2, m.getCommand = cReq → itemOf m = lighting)
    (hreport : ∀ m ∈ sent (loop nodeId w.node r).2, m.getCommand = cSet → itemOf m = lighting →
      m.getString = boolText false)
    (hanswered : Answered (sent (loop nodeId w.node r).2))
    (hstarted : (∃ m ∈ w.uplink ++ sent (loop nodeId w.node r).2, m.getCommand = cReq) ∨
      w.downlink ≠ [] ∨ w.delivered ≠ []) :
    Synchronized (w.loop (deployment nodeId) r) := by
  have huplink : (w.loop (deployment nodeId) r).uplink =
      w.uplink ++ sent (loop nodeId w.node r).2 := rfl
  have hflag : (w.loop (deployment nodeId) r).node.initialRelayStateSent =
      w.node.initialRelayStateSent := loop_initialRelayStateSent
  have hiterations : (w.loop (deployment nodeId) r).iterations = w.iterations + 1 := rfl
  refine ⟨h.stored_bool, h.downlink_type, ?_, ?_, ?_, ?_, fun _ => hstarted, ?_, ?_⟩
  · intro m hm hc
    rcases List.mem_append.mp hm with hm | hm
    · exact h.request_item m hm hc
    · exact hrequest m hm hc
  · intro m hm hc hi
    rcases List.mem_append.mp hm with hm | hm
    · exact h.report_off m hm hc hi
    · exact hreport m hm hc hi
  · exact answered_append h.answered hanswered
  · intro ht
    rw [hflag] at ht
    exact h.flag_delivered ht
  · intro _
    omega
  · intro hnone hany
    rw [lastSetting_loop]
    refine h.agree ?_ hany
    intro m hm
    exact hnone m (huplink ▸ List.mem_append_left _ hm)

/-- The loop half that starts the handshake leaves an open request. -/
theorem synchronized_loop_handshake (h : Synchronized w)
    (hs : sent (loop nodeId w.node r).2 = [report nodeId (msgLightingStatus.setBool lightingOff),
      inquiry nodeId childIdLightStatus vStatus]) :
    Synchronized (w.loop (deployment nodeId) r) := by
  apply synchronized_loop_of h
  · rw [hs]
    intro m hm _
    rcases List.mem_pair.mp hm with rfl | rfl
    · rfl
    · rfl
  · rw [hs]
    intro m hm hc _
    rcases List.mem_pair.mp hm with rfl | rfl
    · rw [getString_report]
      exact MyMessage.getString_setBool false
    · rw [getCommand_inquiry] at hc
      exact (cSet_ne_cReq hc.symm).elim
  · rw [hs]
    refine ⟨?_, ?_, trivial⟩
    · intro _ _
      exact ⟨_, List.mem_singleton_self _, getCommand_inquiry _ _⟩
    · intro hc
      rw [getCommand_inquiry] at hc
      exact (cSet_ne_cReq hc.symm).elim
  · left
    refine ⟨inquiry nodeId childIdLightStatus vStatus, ?_, getCommand_inquiry _ _⟩
    simp [hs]

/-- Any other loop half sends nothing that matters. -/
theorem synchronized_loop_other (h : Synchronized w)
    (hprogress : w.node.waiting = true ∨ w.node.initialRelayStateSent = true)
    (hs : ∀ m ∈ sent (loop nodeId w.node r).2, m.getCommand = cSet ∧ itemOf m ≠ lighting) :
    Synchronized (w.loop (deployment nodeId) r) := by
  apply synchronized_loop_of h
  · intro m hm hc
    rw [(hs m hm).1] at hc
    exact (cSet_ne_cReq hc).elim
  · intro m hm _ hi
    exact absurd hi (hs m hm).2
  · exact answered_of_other fun m hm => (hs m hm).2
  · rcases hprogress with hw | hf
    · obtain ⟨m, hm, hc⟩ | hrest := h.started (h.waiting_started hw)
      · exact Or.inl ⟨m, List.mem_append_left _ hm, hc⟩
      · exact Or.inr hrest
    · exact Or.inr (Or.inr (h.flag_delivered hf))

theorem synchronized_loop (h : Synchronized w) :
    Synchronized (w.loop (deployment nodeId) r) := by
  obtain ⟨-, -, hs⟩ | ⟨hprogress, hs⟩ := sent_loop nodeId w.node r
  · exact synchronized_loop_handshake h hs
  · exact synchronized_loop_other h hprogress hs

section Answer

variable {m : MyMessage} {rest : List MyMessage}

/-- What the invariant says of the uplink still holds behind its head. -/
theorem request_item_rest (h : Synchronized w) (hu : w.uplink = m :: rest) :
    ∀ m' ∈ rest, m'.getCommand = cReq → itemOf m' = lighting := by
  intro m' hm'
  exact h.request_item m' (hu ▸ List.mem_cons_of_mem m hm')

theorem report_off_rest (h : Synchronized w) (hu : w.uplink = m :: rest) :
    ∀ m' ∈ rest, m'.getCommand = cSet → itemOf m' = lighting → m'.getString = boolText false := by
  intro m' hm'
  exact h.report_off m' (hu ▸ List.mem_cons_of_mem m hm')

theorem answered_rest (h : Synchronized w) (hu : w.uplink = m :: rest) :
    (m.getCommand = cSet → itemOf m = lighting → ∃ q ∈ rest, q.getCommand = cReq) ∧
      Answered rest := by
  have hanswered : Answered (m :: rest) := hu ▸ h.answered
  exact hanswered

theorem started_rest (h : Synchronized w) (hu : w.uplink = m :: rest) (hreq : m.getCommand ≠ cReq) :
    1 ≤ w.iterations → (∃ q ∈ rest, q.getCommand = cReq) ∨ w.downlink ≠ [] ∨ w.delivered ≠ [] := by
  intro hi
  obtain ⟨q, hq, hc⟩ | hstarted := h.started hi
  · rw [hu] at hq
    rcases List.mem_cons.mp hq with rfl | hq
    · exact absurd hc hreq
    · exact Or.inl ⟨q, hq, hc⟩
  · exact Or.inr hstarted

theorem downlink_answer (hreq : m.getCommand ≠ cReq) : (w.answer m rest).downlink = w.downlink := by
  by_cases hset : m.getCommand = cSet
  · simp [Network.answer, Controller.handle_set hset]
  · simp [Network.answer, Controller.handle, hset, hreq]

theorem value_answer_report (h : Synchronized w) (hu : w.uplink = m :: rest)
    (hset : m.getCommand = cSet) (hitem : itemOf m = lighting) :
    (w.answer m rest).controller.value lighting = boolText false := by
  have hhead : m ∈ w.uplink := by
    rw [hu]
    exact List.mem_cons_self
  simp [Network.answer, Controller.handle_set hset, hitem, h.report_off m hhead hset hitem]

theorem value_answer_other (hlight : ¬ (m.getCommand = cSet ∧ itemOf m = lighting)) :
    (w.answer m rest).controller.value lighting = w.controller.value lighting := by
  by_cases hset : m.getCommand = cSet
  · have hother : lighting ≠ itemOf m := fun hitem => hlight ⟨hset, hitem.symm⟩
    simp only [Network.answer, Controller.handle_set hset]
    exact Controller.value_store_of_ne _ _ hother
  · by_cases hreq : m.getCommand = cReq
    · simp [Network.answer, Controller.handle_req hreq]
    · simp [Network.answer, Controller.handle, hset, hreq]

/-- A reply carries the stored value. -/
theorem synchronized_answer_request (h : Synchronized w) (hu : w.uplink = m :: rest)
    (hreq : m.getCommand = cReq) : Synchronized (w.answer m rest) := by
  have hhead : m ∈ w.uplink := by
    rw [hu]
    exact List.mem_cons_self
  have hitem := h.request_item m hhead hreq
  obtain ⟨b, hb⟩ := h.stored_bool
  have hcontroller : (w.answer m rest).controller = w.controller := by
    simp [Network.answer, Controller.handle_req hreq]
  have hdown : (w.answer m rest).downlink =
      w.downlink ++ [(Origin.reply, setMessage m.sender lighting (boolText b))] := by
    simp [Network.answer, Controller.handle_req hreq, hitem, hb]
  rw [← hcontroller] at hb
  refine ⟨⟨b, hb⟩, ?_, request_item_rest h hu, report_off_rest h hu, (answered_rest h hu).2,
    h.flag_delivered, ?_, h.waiting_started, ?_⟩
  · intro p hp
    rw [hdown] at hp
    rcases List.mem_append.mp hp with hp | hp
    · exact h.downlink_type p hp
    · rw [List.mem_singleton.mp hp]
      rfl
  · intro _
    rw [hdown]
    exact Or.inr (Or.inl (List.append_ne_nil_of_right_ne_nil _ (List.cons_ne_nil _ _)))
  · intro _ _
    rw [storedLight_of_value hb, lastSetting_of_concat hdown]
    exact getBool_setMessage lighting b

/-- A report of the light overwrites the stored value and leaves a request behind it. -/
theorem synchronized_answer_report (h : Synchronized w) (hu : w.uplink = m :: rest)
    (hset : m.getCommand = cSet) (hitem : itemOf m = lighting) :
    Synchronized (w.answer m rest) := by
  have hhead : m ∈ w.uplink := by
    rw [hu]
    exact List.mem_cons_self
  have hreq : m.getCommand ≠ cReq := by
    rw [hset]
    exact cSet_ne_cReq
  have hvalue : (w.answer m rest).controller.value lighting = boolText false :=
    value_answer_report h hu hset hitem
  obtain ⟨hrepaired, hanswered⟩ := answered_rest h hu
  refine ⟨⟨false, hvalue⟩, ?_, request_item_rest h hu, report_off_rest h hu, hanswered,
    h.flag_delivered, ?_, h.waiting_started, ?_⟩
  · rw [downlink_answer hreq]
    exact h.downlink_type
  · rw [downlink_answer hreq]
    exact started_rest h hu hreq
  · intro hnone
    obtain ⟨q, hq, hc⟩ := hrepaired hset hitem
    exact absurd hc (hnone q hq)

/-- Any other message changes neither the stored value nor what is on its way down. -/
theorem synchronized_answer_other (h : Synchronized w) (hu : w.uplink = m :: rest)
    (hreq : m.getCommand ≠ cReq) (hlight : ¬ (m.getCommand = cSet ∧ itemOf m = lighting)) :
    Synchronized (w.answer m rest) := by
  have hdown : (w.answer m rest).downlink = w.downlink := downlink_answer hreq
  have hlast : lastSetting (w.answer m rest) = lastSetting w := by
    unfold lastSetting
    rw [hdown]
    rfl
  have hvalue : (w.answer m rest).controller.value lighting = w.controller.value lighting :=
    value_answer_other hlight
  refine ⟨?_, ?_, request_item_rest h hu, report_off_rest h hu, (answered_rest h hu).2,
    h.flag_delivered, ?_, h.waiting_started, ?_⟩
  · rw [hvalue]
    exact h.stored_bool
  · rw [hdown]
    exact h.downlink_type
  · rw [hdown]
    exact started_rest h hu hreq
  · intro hnone hany
    rw [hdown] at hany
    have hall : ∀ m' ∈ w.uplink, m'.getCommand ≠ cReq := by
      intro m' hm'
      rw [hu] at hm'
      rcases List.mem_cons.mp hm' with rfl | hm'
      · exact hreq
      · exact hnone m' hm'
    rw [hlast, h.agree hall hany]
    unfold storedLight
    rw [hvalue]

theorem synchronized_answer (h : Synchronized w) (hu : w.uplink = m :: rest) :
    Synchronized (w.answer m rest) := by
  by_cases hreq : m.getCommand = cReq
  · exact synchronized_answer_request h hu hreq
  · by_cases hlight : m.getCommand = cSet ∧ itemOf m = lighting
    · exact synchronized_answer_report h hu hlight.1 hlight.2
    · exact synchronized_answer_other h hu hreq hlight

end Answer

/-- The relay takes the delivered setting, which is the last one when nothing is behind it. -/
theorem lastSetting_deliver {o : Origin} {m : MyMessage} {rest : List (Origin × MyMessage)}
    (hd : w.downlink = (o, m) :: rest) (ht : m.type = vStatus) :
    lastSetting (w.deliver (deployment nodeId) o m rest) = lastSetting w := by
  have hdown : (w.deliver (deployment nodeId) o m rest).downlink = rest := rfl
  have hpin : lightingRelay (w.deliver (deployment nodeId) o m rest) = m.getBool := by
    change level _ _ (w.log ++ acted (receive w.node m).2) = _
    rw [level_append, receive_status ht]
    rfl
  rcases List.eq_nil_or_concat rest with hr | ⟨before, p, hr⟩
  · have hw : w.downlink = [] ++ [(o, m)] := by rw [hd, hr, List.nil_append]
    rw [lastSetting_of_concat hw, lastSetting_of_nil (hdown.trans hr), hpin]
  · rw [List.concat_eq_append] at hr
    have hw : w.downlink = ((o, m) :: before) ++ [p] := by rw [hd, hr, List.cons_append]
    rw [lastSetting_of_concat hw]
    exact lastSetting_of_concat (hdown.trans hr)

theorem synchronized_deliver {o : Origin} {m : MyMessage} {rest : List (Origin × MyMessage)}
    (h : Synchronized w) (hd : w.downlink = (o, m) :: rest) :
    Synchronized (w.deliver (deployment nodeId) o m rest) := by
  have ht : m.type = vStatus := h.downlink_type (o, m) (by simp [hd])
  have hreceive : (deployment nodeId).receive w.node m = _ := receive_status ht
  have huplink : (w.deliver (deployment nodeId) o m rest).uplink = w.uplink := by
    simp [Network.deliver, Network.perform, hreceive]
  have hwaiting : (w.deliver (deployment nodeId) o m rest).node.waiting = w.node.waiting := by
    simp [Network.deliver, Network.perform, hreceive]
  have hdelivered : (w.deliver (deployment nodeId) o m rest).delivered ≠ [] :=
    List.append_ne_nil_of_right_ne_nil _ (List.cons_ne_nil _ _)
  have hany : w.downlink ≠ [] := by
    rw [hd]
    exact List.cons_ne_nil _ _
  refine ⟨h.stored_bool, ?_, ?_, ?_, ?_, fun _ => hdelivered,
    fun _ => Or.inr (Or.inr hdelivered), ?_, ?_⟩
  · intro p hp
    exact h.downlink_type p (hd ▸ List.mem_cons_of_mem _ hp)
  · rw [huplink]
    exact h.request_item
  · rw [huplink]
    exact h.report_off
  · rw [huplink]
    exact h.answered
  · rw [hwaiting]
    exact h.waiting_started
  · intro hnone _
    rw [huplink] at hnone
    rw [lastSetting_deliver hd ht, h.agree hnone (Or.inl hany)]
    rfl

theorem synchronized_user {on : Bool} (h : Synchronized w) :
    Synchronized (w.user (deployment nodeId) on) := by
  have hvalue : (w.user (deployment nodeId) on).controller.value lighting = boolText on :=
    Controller.value_store_self ..
  have hdown : (w.user (deployment nodeId) on).downlink =
      w.downlink ++ [(Origin.command, setMessage nodeId lighting (boolText on))] := rfl
  refine ⟨⟨on, hvalue⟩, ?_, h.request_item, h.report_off, h.answered, h.flag_delivered, ?_,
    h.waiting_started, ?_⟩
  · intro p hp
    rw [hdown] at hp
    rcases List.mem_append.mp hp with hp | hp
    · exact h.downlink_type p hp
    · rw [List.mem_singleton.mp hp]
      rfl
  · intro _
    rw [hdown]
    exact Or.inr (Or.inl (List.append_ne_nil_of_right_ne_nil _ (List.cons_ne_nil _ _)))
  · intro _ _
    rw [storedLight_of_value hvalue, lastSetting_of_concat hdown]
    exact getBool_setMessage lighting on

theorem synchronized_step (h : Synchronized w)
    (hs : Network.step (deployment nodeId) w e = some w') : Synchronized w' := by
  obtain ⟨r, rfl, rfl⟩ | ⟨m, rest, rfl, hu, rfl⟩ | ⟨o, m, rest, rfl, hd, rfl⟩ |
    ⟨on, rfl, rfl⟩ := Network.step_cases hs
  · exact synchronized_loop h
  · exact synchronized_answer h hu
  · exact synchronized_deliver h hd
  · exact synchronized_user h

theorem synchronized_reachable {controller : Controller} {stored : Bool}
    (hreach : Machine.Reachable (Network.step (deployment nodeId)) (boot controller stored) w) :
    Synchronized w :=
  Machine.invariant_reachable (fun _ _ _ hv hs => synchronized_step hv hs) synchronized_boot hreach

/-- Once something was delivered, empty channels leave the light as stored. -/
theorem Synchronized.lightingRelay_of_drained (h : Synchronized w) (hdelivered : w.delivered ≠ [])
    (huplink : w.uplink = []) (hdownlink : w.downlink = []) : lightingRelay w = storedLight w := by
  have hnone : ∀ m ∈ w.uplink, m.getCommand ≠ cReq := by
    intro m hm
    rw [huplink] at hm
    exact absurd hm List.not_mem_nil
  rw [← lastSetting_of_nil hdownlink]
  exact h.agree hnone (Or.inr hdelivered)

/-- When an iteration has begun and both channels are empty, the light is as stored. -/
theorem lightingRelay_eq_storedLight {controller : Controller} {stored : Bool}
    (hreach : Machine.Reachable (Network.step (deployment nodeId)) (boot controller stored) w)
    (hiterations : 1 ≤ w.iterations) (huplink : w.uplink = []) (hdownlink : w.downlink = []) :
    lightingRelay w = storedLight w := by
  have h : Synchronized w := synchronized_reachable hreach
  have hdelivered : w.delivered ≠ [] := by
    obtain ⟨m, hm, -⟩ | hd | hd := h.started hiterations
    · rw [huplink] at hm
      exact absurd hm List.not_mem_nil
    · exact absurd hdownlink hd
    · exact hd
  exact h.lightingRelay_of_drained hdelivered huplink hdownlink

/-- Two handshakes and a command, all drained. -/
def drained : List (Event Readings Bool) :=
  [.loop ⟨0#32, 0#32⟩, .loop ⟨0#32, 0#32⟩, .user true, .loop ⟨0#32, 0#32⟩, .answer, .answer,
    .answer, .answer, .answer, .answer, .deliver, .deliver, .deliver]

theorem lightingRelay_eq_storedLight_drained : ∃ w,
    Machine.run (Network.step (deployment 42#8)) (boot ⟨fun _ => []⟩ true) drained = some w ∧
    1 ≤ w.iterations ∧ lightingRelay w = storedLight w := by
  refine ⟨_, rfl, by decide, ?_⟩
  exact @lightingRelay_eq_storedLight 42#8 _ ⟨fun _ => []⟩ true ⟨drained, rfl⟩
    (by decide) rfl rfl

end HotTub
