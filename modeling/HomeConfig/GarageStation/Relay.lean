import HomeConfig.GarageStation.Sketch

/-! The relay protocol: how often the door relay is pulsed in a run of node and controller. -/
namespace GarageStation

open Arduino MySensors

variable {nodeId : Byte} {metric : Bool} {n : Node} {r : Readings}
  {w w' : Network Node Action} {e : Event Readings (List Byte)}

/-- The station with a user who issues commands, of any payload, for the relay child. -/
def deployment (nodeId : Byte) : Deployment Node Readings (List Byte) Action where
  nodeId := nodeId
  loop := loop nodeId
  receive := receive nodeId
  command text := ((childIdRelayState, vStatus), text)

def boot (metric : Bool) (controller : Controller) : Network Node Action :=
  { node := .boot metric, controller }

/-- How often the door relay has been closed and opened again. -/
def relayPulses (w : Network Node Action) : ℕ := pulses mainDoorRelay false w.log

def commandsDelivered (w : Network Node Action) : ℕ := w.delivered.count .command

/-- Requests on their way to the controller. -/
def requestsInFlight (w : Network Node Action) : ℕ := w.uplink.countP (·.getCommand == cReq)

/-- Replies on their way to the node. -/
def repliesInFlight (w : Network Node Action) : ℕ := w.downlink.countP (·.1 == .reply)

/-- What keeps the handshake orderly. A request is only made while none is open, and the
user only issues a command when the answer to the request is ahead of it. -/
def Orderly (w : Network Node Action) (e : Event Readings (List Byte)) : Prop :=
  match e with
  | .loop _ => w.node.waiting = false → w.node.initialRelayStateSent = false →
      requestsInFlight w = 0 ∧ repliesInFlight w = 0
  | .user _ => w.node.initialRelayStateSent = true ∨ 0 < repliesInFlight w
  | .answer | .deliver => True

instance : Decidable (Orderly w e) :=
  match e with
  | .loop _ => inferInstanceAs (Decidable (_ → _ → _ ∧ _))
  | .user _ => inferInstanceAs (Decidable (_ ∨ _))
  | .answer => .isTrue trivial
  | .deliver => .isTrue trivial

/-! ### What the callbacks do -/

theorem sent_sendInt (message : MyMessage) (value : ℤ) :
    sent (sendInt nodeId message value) = [report nodeId (message.setInt value)] := by
  simp [sendInt, send_registered]

theorem acted_sendInt (message : MyMessage) (value : ℤ) :
    acted (sendInt nodeId message value) = [] := acted_map_transmit _

theorem acted_pulseRelay : acted (pulseRelay nodeId) =
    [.digitalWrite mainDoorRelay true, .sleep 500, .digitalWrite mainDoorRelay false] := by
  simp [pulseRelay, acted_sendInt]

theorem sent_pulseRelay : sent (pulseRelay nodeId) =
    [report nodeId (msgMainDoorRelayStatus.setInt relayOn),
      report nodeId (msgMainDoorRelayStatus.setInt relayOff)] := by
  simp [pulseRelay, sent_sendInt]

theorem sent_sendInitialRelayState (h : n.initialRelayStateSent = false) :
    sent (sendInitialRelayState nodeId n) =
      [report nodeId (msgMainDoorRelayStatus.setInt relayOff),
        inquiry nodeId childIdRelayState vStatus] := by
  simp [sendInitialRelayState, h, sent_sendInt, request_registered]

theorem sent_sendDoorStatus (echo : ℕ) : ∃ status,
    sent (sendDoorStatus nodeId echo) = [report nodeId (msgMainDoorStatus.setInt status)] := by
  unfold sendDoorStatus
  split
  · exact ⟨doorOpen, by simp [sent_sendInt]⟩
  · exact ⟨doorClosed, by simp [sent_sendInt]⟩

theorem acted_sendDoorStatus (echo : ℕ) : acted (sendDoorStatus nodeId echo) =
    [.digitalWrite rangefinderTrigPin false, .digitalWrite rangefinderTrigPin true,
      .digitalWrite rangefinderTrigPin false] := by
  unfold sendDoorStatus
  split <;> simp [acted_sendInt]

/-- Reporting the readings makes no request. -/
theorem sendReadings_set : ∀ m ∈ sent (sendReadings nodeId n r).2, m.getCommand = cSet := by
  intro m hm
  obtain ⟨status, hs⟩ : ∃ status, sent (sendDoorStatus nodeId r.echo) =
      [report nodeId (msgMainDoorStatus.setInt status)] := sent_sendDoorStatus r.echo
  simp only [sendReadings, sent_append, hs, List.mem_append, List.mem_singleton, sent_device,
    sent_nil, List.not_mem_nil, or_false] at hm
  rcases hm with (hm | hm) | hm
  · exact (Dht.Channel.poll_effects.2 m hm).1
  · exact (Dht.Channel.poll_effects.2 m hm).1
  · rw [hm, getCommand_report]

/-- The loop leaves the door relay alone. -/
theorem loop_untouched : Untouched mainDoorRelay (acted (loop nodeId n r).2) := by
  intro v hv
  unfold loop at hv
  split at hv
  · simp [sendReadings, Dht.Channel.poll_effects.1, acted_sendDoorStatus, mainDoorRelay,
      rangefinderTrigPin] at hv
  · unfold sendInitialRelayState at hv
    split at hv <;> simp [acted_sendInt] at hv

@[simp] theorem loop_initialRelayStateSent :
    (loop nodeId n r).1.initialRelayStateSent = n.initialRelayStateSent := by
  unfold loop
  split <;> rfl

/-- A loop half makes a request exactly when it starts an iteration before the relay
state has been received, and asks for nothing but a relay state. -/
theorem loop_requests :
    (sent (loop nodeId n r).2).countP (·.getCommand == cReq) =
      (if n.waiting = false ∧ n.initialRelayStateSent = false then 1 else 0) ∧
    ∀ m ∈ sent (loop nodeId n r).2, m.getCommand = cReq → m.type = vStatus := by
  unfold loop
  cases hw : n.waiting with
  | true =>
    have hset : ∀ m ∈ sent (sendReadings nodeId n r).2, ¬ m.getCommand = cReq := by
      intro m hm hc
      rw [sendReadings_set m hm] at hc
      exact cSet_ne_cReq hc
    refine ⟨?_, fun m hm hc => (hset m hm hc).elim⟩
    simpa [List.countP_eq_zero] using hset
  | false =>
    cases hf : n.initialRelayStateSent with
    | true => simp [sendInitialRelayState, hf]
    | false =>
      simp only [Bool.false_eq_true, if_false, sent_sendInitialRelayState hf]
      constructor
      · simp [cSet_ne_cReq]
      · intro m hm hc
        rcases List.mem_cons.mp hm with rfl | hm
        · rfl
        · rw [List.mem_singleton.mp hm, type_inquiry]

theorem receive_status {message : MyMessage} (ht : message.type = vStatus) :
    receive nodeId n message =
      if n.initialRelayStateSent then (n, pulseRelay nodeId)
      else ({ n with initialRelayStateSent := true }, []) := by
  cases hf : n.initialRelayStateSent <;> simp [receive, ht, hf]

/-- The relay rests after a message, whatever the message is. -/
theorem receive_relay_low {message : MyMessage} :
    level mainDoorRelay false (acted (receive nodeId n message).2) = false := by
  unfold receive
  split
  · split
    · rfl
    · rw [acted_pulseRelay]
      decide
  · rfl

/-- Receiving only sends reports. -/
theorem receive_set {message : MyMessage} :
    ∀ m ∈ sent (receive nodeId n message).2, m.getCommand = cSet := by
  intro m hm
  unfold receive at hm
  split at hm
  · split at hm
    · simp at hm
    · rw [sent_pulseRelay] at hm
      rcases List.mem_cons.mp hm with rfl | hm
      · exact getCommand_report
      · rw [List.mem_singleton.mp hm, getCommand_report]
  · simp at hm

/-! ### The handshake invariant -/

/-- What holds in every reachable state: only relay states travel down, only relay states
are asked for, and the relay rests between two steps. -/
structure WellFormed (w : Network Node Action) : Prop where
  downlink_type : ∀ p ∈ w.downlink, p.2.type = vStatus
  request_type : ∀ m ∈ w.uplink, m.getCommand = cReq → m.type = vStatus
  relay_low : level mainDoorRelay false w.log = false

/-- Before the first message arrives at most one answer is open and it is ahead of every
command; afterwards no answer is open and each delivered command has made a pulse. -/
structure Handshake (w : Network Node Action) : Prop extends WellFormed w where
  open_le : w.node.initialRelayStateSent = false → requestsInFlight w + repliesInFlight w ≤ 1
  reply_first : w.node.initialRelayStateSent = false → ∀ p rest, w.downlink = p :: rest → p.1 = .reply
  nothing_delivered : w.node.initialRelayStateSent = false → w.delivered = [] ∧ relayPulses w = 0
  nothing_open : w.node.initialRelayStateSent = true →
    requestsInFlight w = 0 ∧ repliesInFlight w = 0
  pulses_eq : w.node.initialRelayStateSent = true → relayPulses w = commandsDelivered w

theorem handshake_boot (controller : Controller) : Handshake (boot metric controller) where
  downlink_type := by simp [boot]
  request_type := by simp [boot]
  relay_low := rfl
  open_le := by simp [boot, requestsInFlight, repliesInFlight]
  reply_first := by simp [boot]
  nothing_delivered := fun _ => ⟨rfl, rfl⟩
  nothing_open := by simp [boot, Node.boot]
  pulses_eq := by simp [boot, Node.boot]

theorem wellFormed_loop (h : WellFormed w) : WellFormed (w.loop (deployment nodeId) r) where
  downlink_type := h.downlink_type
  request_type := by
    intro m hm hc
    rcases List.mem_append.mp hm with hm | hm
    · exact h.request_type m hm hc
    · exact loop_requests.2 m hm hc
  relay_low := by
    change level _ _ (_ ++ _) = _
    rw [level_append, h.relay_low]
    exact loop_untouched.level_pulses.1

theorem relayPulses_loop (h : WellFormed w) :
    relayPulses (w.loop (deployment nodeId) r) = relayPulses w := by
  change pulses _ _ (w.log ++ acted (loop nodeId w.node r).2) = _
  rw [pulses_append, h.relay_low, loop_untouched.level_pulses.2]
  rfl

theorem requestsInFlight_loop : requestsInFlight (w.loop (deployment nodeId) r) =
    requestsInFlight w +
      if w.node.waiting = false ∧ w.node.initialRelayStateSent = false then 1 else 0 := by
  change List.countP _ (_ ++ _) = _
  rw [List.countP_append]
  exact congrArg _ loop_requests.1

theorem handshake_loop (h : Handshake w) (ho : Orderly w (.loop r)) :
    Handshake (w.loop (deployment nodeId) r) := by
  have hflag : (w.loop (deployment nodeId) r).node.initialRelayStateSent =
      w.node.initialRelayStateSent := loop_initialRelayStateSent
  have hreplies : repliesInFlight (w.loop (deployment nodeId) r) = repliesInFlight w := rfl
  have hpulses : relayPulses (w.loop (deployment nodeId) r) = relayPulses w :=
    relayPulses_loop h.toWellFormed
  have hrequests : requestsInFlight (w.loop (deployment nodeId) r) = requestsInFlight w +
      if w.node.waiting = false ∧ w.node.initialRelayStateSent = false then 1 else 0 :=
    requestsInFlight_loop
  refine ⟨wellFormed_loop h.toWellFormed, ?_, ?_, ?_, ?_, ?_⟩ <;> rw [hflag] <;> intro hf
  · rw [hrequests, hreplies]
    split
    · rename_i hstart
      have hopen := ho hstart.1 hf
      omega
    · exact h.open_le hf
  · exact h.reply_first hf
  · rw [hpulses]
    exact h.nothing_delivered hf
  · rw [hrequests, hreplies, if_neg (by simp [hf])]
    exact h.nothing_open hf
  · rw [hpulses]
    exact h.pulses_eq hf

theorem wellFormed_answer {m : MyMessage} {rest : List MyMessage} (h : WellFormed w)
    (hu : w.uplink = m :: rest) : WellFormed (w.answer m rest) where
  downlink_type := by
    intro p hp
    rcases List.mem_append.mp hp with hp | hp
    · exact h.downlink_type p hp
    · obtain ⟨reply, hr, rfl⟩ := List.mem_map.mp hp
      by_cases hc : m.getCommand = cReq
      · have ht := h.request_type m (by simp [hu]) hc
        rw [Controller.handle_req hc, List.mem_singleton] at hr
        simp [hr, itemOf, ht]
      · by_cases hs : m.getCommand = cSet
        · simp [Controller.handle_set hs] at hr
        · simp [Controller.handle, hs, hc] at hr
  request_type := fun m' hm' => h.request_type m' (hu ▸ List.mem_cons_of_mem m hm')
  relay_low := h.relay_low

/-- Taking a request turns it into a reply behind everything that is on its way down. -/
theorem open_answer {m : MyMessage} {rest : List MyMessage} (hu : w.uplink = m :: rest) :
    requestsInFlight (w.answer m rest) + repliesInFlight (w.answer m rest) =
      requestsInFlight w + repliesInFlight w := by
  have hr : requestsInFlight w =
      rest.countP (·.getCommand == cReq) + if m.getCommand = cReq then 1 else 0 := by
    simp [requestsInFlight, hu, List.countP_cons]
  have ha : requestsInFlight (w.answer m rest) = rest.countP (·.getCommand == cReq) := rfl
  have hd : repliesInFlight (w.answer m rest) =
      repliesInFlight w + (w.controller.handle m).2.length := by
    simp [repliesInFlight, Network.answer, List.countP_append, List.countP_map,
      Function.comp_def]
  have hl : (w.controller.handle m).2.length = if m.getCommand = cReq then 1 else 0 := by
    unfold Controller.handle
    split
    · rename_i hs
      simp [hs, cSet_ne_cReq]
    · split <;> simp_all
  omega

theorem handshake_answer {m : MyMessage} {rest : List MyMessage} (h : Handshake w)
    (hu : w.uplink = m :: rest) : Handshake (w.answer m rest) := by
  have hopen := open_answer hu
  have hflag : (w.answer m rest).node = w.node := rfl
  have hpulses : relayPulses (w.answer m rest) = relayPulses w := rfl
  have hdelivered : (w.answer m rest).delivered = w.delivered := rfl
  refine ⟨wellFormed_answer h.toWellFormed hu, ?_, ?_, ?_, ?_, ?_⟩ <;> rw [hflag] <;> intro hf
  · rw [hopen]
    exact h.open_le hf
  · intro p after hd
    cases hq : w.downlink with
    | cons q before =>
      have hp : p = q := by
        have hd : w.downlink ++ (w.controller.handle m).2.map (Origin.reply, ·) = p :: after := hd
        rw [hq] at hd
        exact (List.cons.inj hd).1.symm
      exact hp ▸ h.reply_first hf q before hq
    | nil =>
      have hp : p ∈ w.downlink ++ (w.controller.handle m).2.map (Origin.reply, ·) := by
        have hd : w.downlink ++ _ = p :: after := hd
        rw [hd]
        exact List.mem_cons_self
      rw [hq, List.nil_append] at hp
      obtain ⟨reply, -, rfl⟩ := List.mem_map.mp hp
      rfl
  · exact h.nothing_delivered hf
  · have := h.nothing_open hf
    omega
  · exact h.pulses_eq hf

theorem wellFormed_deliver {o : Origin} {m : MyMessage} {rest : List (Origin × MyMessage)}
    (h : WellFormed w) (hd : w.downlink = (o, m) :: rest) :
    WellFormed (w.deliver (deployment nodeId) o m rest) where
  downlink_type := fun p hp => h.downlink_type p (hd ▸ List.mem_cons_of_mem _ hp)
  request_type := by
    intro m' hm' hc
    rcases List.mem_append.mp hm' with hm' | hm'
    · exact h.request_type m' hm' hc
    · have hset : m'.getCommand = cSet := receive_set m' hm'
      rw [hset] at hc
      exact (cSet_ne_cReq hc).elim
  relay_low := by
    change level _ _ (w.log ++ acted (receive nodeId w.node m).2) = _
    rw [level_append, h.relay_low]
    exact receive_relay_low

/-- A delivery pulses the relay exactly when the flag is already set. -/
theorem relayPulses_deliver {o : Origin} {m : MyMessage} {rest : List (Origin × MyMessage)}
    (h : WellFormed w) (hm : m.type = vStatus) :
    relayPulses (w.deliver (deployment nodeId) o m rest) =
      relayPulses w + if w.node.initialRelayStateSent then 1 else 0 := by
  change pulses _ _ (w.log ++ acted (receive nodeId w.node m).2) = _
  rw [pulses_append, h.relay_low, receive_status hm]
  cases w.node.initialRelayStateSent with
  | false => rfl
  | true =>
    simp only [if_true, acted_pulseRelay]
    rfl

theorem requestsInFlight_deliver {o : Origin} {m : MyMessage}
    {rest : List (Origin × MyMessage)} :
    requestsInFlight (w.deliver (deployment nodeId) o m rest) = requestsInFlight w := by
  change List.countP _ (w.uplink ++ sent (receive nodeId w.node m).2) = _
  rw [List.countP_append]
  have hnone : (sent (receive nodeId w.node m).2).countP (·.getCommand == cReq) = 0 := by
    rw [List.countP_eq_zero]
    intro m' hm'
    rw [receive_set m' hm']
    decide
  rw [hnone]
  rfl

theorem repliesInFlight_deliver {o : Origin} {m : MyMessage} {rest : List (Origin × MyMessage)}
    (hd : w.downlink = (o, m) :: rest) :
    repliesInFlight w = repliesInFlight (w.deliver (deployment nodeId) o m rest) +
      if o = .reply then 1 else 0 := by
  simp [repliesInFlight, hd, List.countP_cons, Network.deliver, Network.perform]

theorem commandsDelivered_deliver {o : Origin} {m : MyMessage}
    {rest : List (Origin × MyMessage)} :
    commandsDelivered (w.deliver (deployment nodeId) o m rest) =
      commandsDelivered w + if o = .command then 1 else 0 := by
  simp [commandsDelivered, Network.deliver, List.count_singleton]

/-- The first message that arrives sets the flag. -/
theorem flag_deliver {o : Origin} {m : MyMessage} {rest : List (Origin × MyMessage)}
    (hm : m.type = vStatus) :
    (w.deliver (deployment nodeId) o m rest).node.initialRelayStateSent = true := by
  change (receive nodeId w.node m).1.initialRelayStateSent = true
  rw [receive_status hm]
  split
  · assumption
  · rfl

/-- The first message is the one answer that can be open, and every later one a command. -/
theorem origin_of_handshake {o : Origin} {m : MyMessage} {rest : List (Origin × MyMessage)}
    (h : Handshake w) (hd : w.downlink = (o, m) :: rest) :
    o = if w.node.initialRelayStateSent then .command else .reply := by
  cases hf : w.node.initialRelayStateSent with
  | false => exact h.reply_first hf (o, m) rest hd
  | true =>
    have hopen := (h.nothing_open hf).2
    cases o with
    | command => rfl
    | reply => simp [repliesInFlight, hd] at hopen

theorem handshake_deliver {o : Origin} {m : MyMessage} {rest : List (Origin × MyMessage)}
    (h : Handshake w) (hd : w.downlink = (o, m) :: rest) :
    Handshake (w.deliver (deployment nodeId) o m rest) := by
  have hm : m.type = vStatus := h.downlink_type (o, m) (by simp [hd])
  have hpulses : relayPulses (w.deliver (deployment nodeId) o m rest) =
      relayPulses w + if w.node.initialRelayStateSent then 1 else 0 :=
    relayPulses_deliver h.toWellFormed hm
  have hrequests : requestsInFlight (w.deliver (deployment nodeId) o m rest) =
      requestsInFlight w := requestsInFlight_deliver
  have hreplies : repliesInFlight w =
      repliesInFlight (w.deliver (deployment nodeId) o m rest) + if o = .reply then 1 else 0 :=
    repliesInFlight_deliver hd
  have hflag : (w.deliver (deployment nodeId) o m rest).node.initialRelayStateSent = true :=
    flag_deliver hm
  have ho := origin_of_handshake h hd
  refine ⟨wellFormed_deliver h.toWellFormed hd, ?_, ?_, ?_, ?_, ?_⟩ <;> rw [hflag]
  · intro hf
    exact absurd hf (by decide)
  · intro hf
    exact absurd hf (by decide)
  · intro hf
    exact absurd hf (by decide)
  · intro _
    cases hf : w.node.initialRelayStateSent with
    | true =>
      have hopen := h.nothing_open hf
      omega
    | false =>
      have hle := h.open_le hf
      have ho : o = .reply := by simpa [hf] using ho
      rw [if_pos ho] at hreplies
      omega
  · intro _
    rw [hpulses, commandsDelivered_deliver]
    cases hf : w.node.initialRelayStateSent with
    | true =>
      rw [hf] at ho
      rw [h.pulses_eq hf, ho]
      rfl
    | false =>
      obtain ⟨hnone, hzero⟩ := h.nothing_delivered hf
      have hcount : commandsDelivered w = 0 := by simp [commandsDelivered, hnone]
      rw [hf] at ho
      rw [hcount, hzero, ho]
      rfl

theorem handshake_user {text : List Byte} (h : Handshake w) (ho : Orderly w (.user text)) :
    Handshake (w.user (deployment nodeId) text) := by
  have hreplies : repliesInFlight (w.user (deployment nodeId) text) = repliesInFlight w := by
    simp [repliesInFlight, Network.user, List.countP_append]
  have hrequests : requestsInFlight (w.user (deployment nodeId) text) = requestsInFlight w := rfl
  refine ⟨⟨?_, h.request_type, h.relay_low⟩, ?_, ?_, h.nothing_delivered, ?_, h.pulses_eq⟩
  · intro p hp
    rcases List.mem_append.mp hp with hp | hp
    · exact h.downlink_type p hp
    · rw [List.mem_singleton.mp hp]
      rfl
  · intro hf
    rw [hreplies, hrequests]
    exact h.open_le hf
  · intro hf p after hd
    have hf : w.node.initialRelayStateSent = false := hf
    have hd : w.downlink ++ [(Origin.command, setMessage nodeId (childIdRelayState, vStatus) text)] =
        p :: after := hd
    cases hq : w.downlink with
    | cons q before =>
      rw [hq] at hd
      exact (List.cons.inj hd).1 ▸ h.reply_first hf q before hq
    | nil =>
      -- an orderly command has the reply ahead of it
      rcases ho with ho | ho
      · rw [hf] at ho
        exact absurd ho (by decide)
      · simp [repliesInFlight, hq] at ho
  · intro hf
    rw [hreplies, hrequests]
    exact h.nothing_open hf

theorem handshake_step (h : Handshake w) (ho : Orderly w e)
    (hs : Network.step (deployment nodeId) w e = some w') : Handshake w' := by
  obtain ⟨r, rfl, rfl⟩ | ⟨m, rest, rfl, hu, rfl⟩ | ⟨o, m, rest, rfl, hd, rfl⟩ |
    ⟨text, rfl, rfl⟩ := Network.step_cases hs
  · exact handshake_loop h ho
  · exact handshake_answer h hu
  · exact handshake_deliver h hd
  · exact handshake_user h ho

/-- As long as the handshake is orderly, the door moves exactly for the delivered commands. -/
theorem relayPulses_eq_commandsDelivered {controller : Controller}
    {events : List (Event Readings (List Byte))}
    (horderly : Machine.EveryStep (Network.step (deployment nodeId)) (fun w e _ => Orderly w e)
      (boot metric controller) events)
    (hrun : Machine.run (Network.step (deployment nodeId)) (boot metric controller) events =
      some w) :
    relayPulses w = commandsDelivered w := by
  have hstep : ∀ v (e : Event Readings (List Byte)) v', Handshake v → Orderly v e →
      Network.step (deployment nodeId) v e = some v' → Handshake v' :=
    fun _ _ _ hv ho hs => handshake_step hv ho hs
  have h : Handshake w :=
    Machine.invariant_of_everyStep hstep (handshake_boot controller) horderly hrun
  cases hf : w.node.initialRelayStateSent with
  | true => exact h.pulses_eq hf
  | false =>
    obtain ⟨hnone, hzero⟩ := h.nothing_delivered hf
    simp [commandsDelivered, hnone, hzero]

/-- Readings that send nothing but the door status. -/
def idle : Readings := ⟨0x7fc00000#32, 0x7fc00000#32, 0⟩

/-- A run in which the user's command is issued behind the reply. -/
def commandBehindReply : List (Event Readings (List Byte)) :=
  [.loop idle, .answer, .answer, .user (ascii "1"), .deliver, .deliver]

theorem relayPulses_eq_commandsDelivered_one : ∃ w,
    Machine.run (Network.step (deployment 42#8)) (boot true ⟨fun _ => []⟩) commandBehindReply =
      some w ∧ commandsDelivered w = 1 ∧ relayPulses w = commandsDelivered w := by
  refine ⟨_, rfl, by decide +kernel, ?_⟩
  exact @relayPulses_eq_commandsDelivered 42#8 true _ ⟨fun _ => []⟩ commandBehindReply
    (by decide +kernel) rfl

/-- The reply to a second request moves the door, and a command that overtakes the first
reply is taken for the initial value. -/
theorem relayPulses_ne_commandsDelivered :
    (Machine.run (Network.step (deployment 42#8)) (boot true ⟨fun _ => []⟩)
      [.loop idle, .loop idle, .loop idle, .answer, .answer, .answer, .answer, .answer,
        .deliver, .deliver]).map
      (fun w => (relayPulses w, commandsDelivered w)) = some (1, 0) ∧
    (Machine.run (Network.step (deployment 42#8)) (boot true ⟨fun _ => []⟩)
      [.loop idle, .user (ascii "1"), .deliver]).map
      (fun w => (relayPulses w, commandsDelivered w)) = some (0, 1) := by
  constructor <;> decide +kernel

end GarageStation
