import HomeConfig.MySensors.Gateway

/-! From the nodes to the controller: which of the messages that reach a gateway it settles itself, and
which ones it writes to the serial line. -/
namespace MySensors

open Arduino TreeRouting

/-! ### The dispatcher of a gateway -/

/-- MY_CORE_MIN_VERSION. -/
def coreMinVersion : Byte := 2#8

/-- `prepareSigningPresentation`: version one, and nothing required. -/
def prepareSigningPresentation (destination : Byte) : MyMessage :=
  let msg := (build (.registered gatewayAddress) destination nodeSensorId cInternal
    iSigningPresentation).setString []
  { (msg.setLength 2#8).setPayloadType pCustom with data := [1#8, 0#8] }

namespace Gateway

variable {m message : MyMessage} {pingActive : Bool} {payloadLength : ℕ}

/-- A message of the library's own. -/
def buildInternal (destination type : Byte) : MyMessage :=
  build (.registered gatewayAddress) destination nodeSensorId cInternal type

/-- `_sendRoute`: a message to the gateway itself goes to the controller. -/
def sendRoute (message : MyMessage) : List GatewayEffect :=
  if message.destination = gatewayAddress then [.gatewayTransportSend message]
  else [.transportSendRoute message]

/-- `_processInternalMessages`: nothing when it returns false. -/
def processInternalMessages (message : MyMessage) : Option (List GatewayEffect) :=
  if message.sender = gatewayAddress then
    if message.type = iReboot ∨ message.type = iRegistrationResponse ∨ message.type = iConfig ∨
        message.type = iPresentation ∨ message.type = iHeartbeatRequest ∨ message.type = iTime ∨
        message.type = iChildren ∨ message.type = iDebug then
      some [.processInternalMessages message]
    else none
  else if message.type = iRegistrationRequest then
    let approveRegistration := decide (coreMinVersion ≤ message.getByte)
    some (sendRoute ((buildInternal message.sender iRegistrationResponse).setBool approveRegistration))
  else none

/-- The internal messages after which no further processing is required. Without signing support the
nonces are dropped, but a node that presents its signing requirements gets an answer. -/
def processInternal (pingActive : Bool) (message : MyMessage) : Option (List GatewayEffect) :=
  if message.type = iSigningPresentation then
    some (sendRoute (prepareSigningPresentation message.sender))
  else if message.type = iNonceRequest ∨ message.type = iNonceResponse then some []
  else if message.type = iPing then
    some [.transportRouteMessage ((buildInternal message.sender iPong).setByte 1#8)]
  else if message.type = iPong then
    if pingActive then some [.pingResponse message.getByte] else some []
  else
    match processInternalMessages message with
    | some done => some done
    | none =>
      if message.type = iSignalReportReverse then some []
      else if message.type = iSignalReportRequest then
        some [.transportRouteMessage
          ((buildInternal gatewayAddress iSignalReportResponse).setInt invalidRssi)]
      else none

/-- To the controller, and to the sketch. -/
def handOver (message : MyMessage) : List GatewayEffect :=
  [.gatewayTransportSend message, .receive message]

def ackReply (message : MyMessage) : List GatewayEffect :=
  if message.getRequestAck then
    [.transportSendRoute { (message.setRequestAck false).setAck true with
      sender := gatewayAddress, destination := message.sender }]
  else []

/-- A message to the gateway. -/
def processAddressed (pingActive : Bool) (message : MyMessage) : List GatewayEffect :=
  ackReply message ++
  if message.isAck then handOver message
  else if message.getCommand = cInternal then
    (processInternal pingActive message).getD (handOver message)
  else handOver message

/-- `transportProcessMessage` on a gateway without signing, for a message to itself. -/
def processMessage (pingActive : Bool) (payloadLength : ℕ) (message : MyMessage) : List GatewayEffect :=
  if payloadLength ≠ Transport.expectedMessageLength message then []
  else if message.getVersion ≠ protocolVersion then []
  else processAddressed pingActive (Transport.nullTerminate message)

/-- What a serial gateway prints: `gatewayTransportSend` writes the line of its message. -/
def printed (effects : List GatewayEffect) : List (List Byte) :=
  effects.filterMap fun
    | .gatewayTransportSend message => some (protocolFormat message)
    | _ => none

/-- The messages of a node that the gateway settles without its controller. -/
def Settled (message : MyMessage) : Prop :=
  message.isAck = false ∧ message.getCommand = cInternal ∧
    message.type ∈ [iSigningPresentation, iNonceRequest, iNonceResponse, iPing, iPong,
      iRegistrationRequest, iSignalReportReverse, iSignalReportRequest]

instance (message : MyMessage) : Decidable (Settled message) := inferInstanceAs (Decidable (_ ∧ _))

theorem printed_append {es fs : List GatewayEffect} : printed (es ++ fs) = printed es ++ printed fs :=
  List.filterMap_append

theorem printed_handOver : printed (handOver message) = [protocolFormat message] := rfl

/-- An answer to a node is not printed. -/
theorem printed_sendRoute (h : message.destination ≠ gatewayAddress) : printed (sendRoute message) = [] := by
  unfold sendRoute
  rw [if_neg h]
  rfl

theorem printed_ackReply : printed (ackReply message) = [] := by
  unfold ackReply
  split <;> rfl

/-- Of the internal messages of a node exactly those named above are settled, and nothing is printed
for them. -/
theorem processInternal_cases (pingActive : Bool) (hsender : message.sender ≠ gatewayAddress) :
    message.type ∈ [iSigningPresentation, iNonceRequest, iNonceResponse, iPing, iPong,
      iRegistrationRequest, iSignalReportReverse, iSignalReportRequest] ∧
      (∃ es, processInternal pingActive message = some es ∧ printed es = []) ∨
    message.type ∉ [iSigningPresentation, iNonceRequest, iNonceResponse, iPing, iPong,
      iRegistrationRequest, iSignalReportReverse, iSignalReportRequest] ∧
      processInternal pingActive message = none := by
  have hmessages : processInternalMessages message =
      if message.type = iRegistrationRequest then
        some (sendRoute ((buildInternal message.sender iRegistrationResponse).setBool
          (decide (coreMinVersion ≤ message.getByte))))
      else none := if_neg hsender
  by_cases hmem : message.type ∈ [iSigningPresentation, iNonceRequest, iNonceResponse, iPing, iPong,
      iRegistrationRequest, iSignalReportReverse, iSignalReportRequest]
  · refine .inl ⟨hmem, ?_⟩
    unfold processInternal
    rw [hmessages]
    simp only [List.mem_cons, List.not_mem_nil, or_false] at hmem
    rcases hmem with h | h | h | h | h | h | h | h
    · exact ⟨_, if_pos h, printed_sendRoute hsender⟩
    all_goals rw [h]
    · exact ⟨_, rfl, rfl⟩
    · exact ⟨_, rfl, rfl⟩
    · exact ⟨_, rfl, rfl⟩
    · cases pingActive <;> exact ⟨_, rfl, rfl⟩
    · exact ⟨_, rfl, printed_sendRoute hsender⟩
    · exact ⟨_, rfl, rfl⟩
    · exact ⟨_, rfl, rfl⟩
  · refine .inr ⟨hmem, ?_⟩
    unfold processInternal
    rw [hmessages]
    simp only [List.mem_cons, List.not_mem_nil, or_false, not_or] at hmem
    simp only [hmem, or_self, if_false]

theorem printed_processAddressed (hsender : message.sender ≠ gatewayAddress) :
    printed (processAddressed pingActive message) =
      if Settled message then [] else [protocolFormat message] := by
  unfold processAddressed
  rw [printed_append, printed_ackReply, List.nil_append]
  by_cases hack : message.isAck = true
  · have hhanded : ¬ Settled message := fun h => Bool.false_ne_true (h.1.symm.trans hack)
    rw [if_pos hack, printed_handOver, if_neg hhanded]
  · by_cases hinternal : message.getCommand = cInternal
    · rw [if_neg hack, if_pos hinternal]
      rcases processInternal_cases pingActive hsender with
        ⟨hmem, es, hes, hnone⟩ | ⟨hmem, hes⟩
      · rw [hes, Option.getD_some, hnone, if_pos ⟨Bool.eq_false_of_not_eq_true hack, hinternal, hmem⟩]
      · rw [hes, Option.getD_none, printed_handOver, if_neg fun h : Settled message => hmem h.2.2]
    · rw [if_neg hack, if_neg hinternal, printed_handOver,
        if_neg fun h : Settled message => hinternal h.2.1]

/-- One line for each message that the gateway does not settle. -/
theorem printed_processMessage (hlength : payloadLength = Transport.expectedMessageLength message)
    (hversion : message.getVersion = protocolVersion) (hsender : message.sender ≠ gatewayAddress) :
    printed (processMessage pingActive payloadLength message) =
      if Settled message then [] else [protocolFormat (Transport.nullTerminate message)] := by
  -- the header is the same behind the termination
  have hsender' : (Transport.nullTerminate message).sender ≠ gatewayAddress := hsender
  have hsettled : Settled (Transport.nullTerminate message) ↔ Settled message := Iff.rfl
  unfold processMessage
  rw [if_neg (not_not.mpr hlength), if_neg (not_not.mpr hversion), printed_processAddressed hsender',
    if_congr hsettled rfl rfl]

end Gateway

/-! ### What the nodes have sent -/

variable {net : Layout} {s t : Mesh} {e : MeshEvent} {m m' : MyMessage} {D hops : ℕ} {lost : List ℕ}

/-- A step sends nothing, or one message that is a proper one. -/
theorem sent_of_step (h : s.step net e = some t) :
    t.sent = s.sent ∨ ∃ n m, Mesh.Proper n m ∧ t.sent = s.sent ++ [m] := by
  cases e with
  | originate n m =>
    simp only [Mesh.step] at h
    split at h
    · rename_i hproper
      obtain ⟨r, -, hr⟩ := Option.bind_eq_some_iff.mp h
      obtain ⟨_, -, rfl⟩ := Option.map_eq_some_iff.mp hr
      exact .inr ⟨n, m, hproper, rfl⟩
    · cases h
  | arrive i =>
    obtain ⟨f, -, hf⟩ := Option.bind_eq_some_iff.mp h
    split at hf
    · obtain ⟨r, -, rfl⟩ := Option.map_eq_some_iff.mp hf
      refine .inl ?_
      unfold Mesh.arrived
      dsimp only
      split <;> rfl
    · cases hf
  | lose i =>
    obtain ⟨f, -, rfl⟩ := Option.map_eq_some_iff.mp h
    exact .inl rfl

/-- Every message that has been sent is a proper one of its node. -/
def Posted (s : Mesh) : Prop := ∀ m ∈ s.sent, ∃ n, Mesh.Proper n m

theorem Posted.step (h : Posted s) (hstep : s.step net e = some t) : Posted t := by
  intro k hk
  rcases sent_of_step hstep with hsame | ⟨n, m, hproper, hnew⟩
  · exact h k (hsame ▸ hk)
  · rw [hnew, List.mem_append, List.mem_singleton] at hk
    rcases hk with hk | rfl
    · exact h k hk
    · exact ⟨n, hproper⟩

theorem Steady.posted (h : Steady net lost s) : Posted s := by
  obtain ⟨history, events, s₀, hhistory, -, -, hrun, -⟩ := h
  have hkeep : ∀ s e t, Posted s → s.step net e = some t → Posted t :=
    fun _ _ _ hs hstep => hs.step hstep
  have hcleared : Posted Mesh.cleared := fun _ hm => absurd hm List.not_mem_nil
  exact Machine.invariant_run hkeep (Machine.invariant_run hkeep hcleared hhistory) hrun

/-! ### What is delivered, and what is printed -/

/-- The lines that the gateway prints for the messages that have reached it, whether it waits for a pong
or not. -/
def Mesh.printed (pingActive : Delivery → Bool) (s : Mesh) : List (List Byte) :=
  (s.delivered.filter fun d => d.node = gatewayAddress).flatMap fun d =>
    Gateway.printed (Gateway.processMessage (pingActive d) (onAirLength d.message) d.message)

/-- A message for the controller: to the gateway, and none that it settles itself. -/
def Reported (message : MyMessage) : Prop :=
  message.destination = gatewayAddress ∧ ¬ Gateway.Settled message

instance (message : MyMessage) : Decidable (Reported message) := inferInstanceAs (Decidable (_ ∧ _))

/-- The line that the controller should read of a message: five numbers in decimal, a semicolon behind
each, the text that the payload shows, and the end of the line. -/
def reportLine (message : MyMessage) : List Byte :=
  ([message.sender.toNat, message.sensor.toNat, message.getCommand.toNat, message.isAck.toNat,
    message.type.toNat].flatMap fun n => decimal n ++ ascii ";") ++
    (Transport.nullTerminate message).getString ++ ascii "\n"

theorem protocolFormat_nullTerminate (m : MyMessage) :
    protocolFormat (Transport.nullTerminate m) = reportLine m := by
  have hheader : (Transport.nullTerminate m).header = m.header := rfl
  have hfields : (fun n : ℕ => itoa n ++ [semicolon]) = fun n => decimal n ++ ascii ";" := by
    funext n
    rw [itoa_natCast]
    rfl
  rw [protocolFormat_eq, line, hheader, hfields]
  rfl

/-- On its way a message does not change so that its line would be another one. -/
theorem Carried.printed_eq {pingActive : Bool} (h : Carried hops m m') (hsender : m.sender ≠ gatewayAddress)
    (hversion : m.getVersion = protocolVersion) (hack : CountsHops m → m.isAck = false) :
    Gateway.printed (Gateway.processMessage pingActive (onAirLength m') m') =
      if Gateway.Settled m then [] else [reportLine m] := by
  have hsettled : Gateway.Settled m' ↔ Gateway.Settled m := by
    unfold Gateway.Settled
    rw [h.ack, h.command, h.type]
  rw [Gateway.printed_processMessage (onAirLength_eq m') (h.version.trans hversion)
    (fun heq => hsender (h.sender.symm.trans heq)), if_congr hsettled rfl rfl]
  by_cases hs : Gateway.Settled m
  · rw [if_pos hs, if_pos hs]
  · rw [if_neg hs, if_neg hs]
    have hcounts : ¬ CountsHops m := by
      intro hcounts
      refine hs ⟨hack hcounts, hcounts.1, ?_⟩
      rcases hcounts.2 with htype | htype <;> simp [htype]
    rw [h.content hcounts, ← protocolFormat_nullTerminate]
    rfl

theorem filterMap_getElem?_range {α : Type} (as : List α) :
    (List.range as.length).filterMap (fun i => as[i]?) = as := by
  induction as with
  | nil => rfl
  | cons a as ih =>
    rw [List.length_cons, List.range_succ_eq_map, List.filterMap_cons, List.filterMap_map]
    simpa [Function.comp_def] using ih

/-- What is delivered in the end is, up to what has been lost, what has been sent. -/
theorem Smooth.delivered_map {α : Type} {f : Delivery → α} {g : MyMessage → α} (h : Smooth net D lost t)
    (hempty : t.air = []) (hfg : ∀ d ∈ t.delivered, ∀ m ∈ t.sent, d.node = m.destination →
      Carried d.hops m d.message → f d = g m) :
    ∃ missing : List α, missing.length = lost.length ∧
      (t.delivered.map f ++ missing).Perm (t.sent.map g) := by
  have honce := h.healthy.once
  rw [hempty, h.lost_eq, List.map_nil, List.nil_append] at honce
  have hsome : ∀ d ∈ t.delivered,
      ((fun i => (t.sent.map g)[i]?) ∘ Delivery.serial) d = (some ∘ f) d := by
    intro d hd
    obtain ⟨m, hm, hnode, hcarried⟩ := h.healthy.kept.arrived d hd
    simp only [Function.comp_apply, List.getElem?_map, hm, Option.map_some]
    rw [hfg d hd m (List.mem_of_getElem? hm) hnode hcarried]
  have hall : (List.range t.sent.length).filterMap (fun i => (t.sent.map g)[i]?) = t.sent.map g := by
    have hlen : (t.sent.map g).length = t.sent.length := List.length_map _
    rw [← hlen]
    exact filterMap_getElem?_range _
  have hperm := honce.filterMap fun i => (t.sent.map g)[i]?
  rw [hall, List.filterMap_append, List.filterMap_map] at hperm
  have hmap : t.delivered.filterMap ((fun i => (t.sent.map g)[i]?) ∘ Delivery.serial) =
      t.delivered.map f := by
    rw [List.filterMap_congr hsome, List.filterMap_eq_map]
  rw [hmap] at hperm
  refine ⟨_, ?_, hperm⟩
  have hlength := hperm.length_eq
  have hcount := honce.length_eq
  simp only [List.length_append, List.length_map, List.length_range] at hlength hcount
  omega

theorem flatMap_filter {α β : Type} (p : α → Prop) [DecidablePred p] (f : α → List β) (as : List α) :
    (as.filter p).flatMap f = as.flatMap fun a => if p a then f a else [] := by
  induction as with
  | nil => rfl
  | cons a as ih =>
    rw [List.flatMap_cons, ← ih]
    by_cases h : p a <;> simp [h]

/-- What the nodes report to their controller: when the air is empty, the lines that the gateway has
printed are those of the messages that were sent for the controller, each once; no more are missing than
messages were lost. No node may acknowledge a ping. -/
theorem reports_reach_controller (net : Layout) (D : ℕ) (hdeep : ∀ n, net.distanceGW n ≤ D)
    (lost : List ℕ) (s : Mesh) (hsteady : Steady net lost s)
    (hack : ∀ m ∈ s.sent, CountsHops m → m.isAck = false) (hempty : s.air = [])
    (pingActive : Delivery → Bool) :
    ∃ missing : List (List Byte), missing.length ≤ lost.length ∧
      (s.printed pingActive ++ missing).Perm ((s.sent.filter Reported).map reportLine) := by
  have hs : Smooth net D lost s := hsteady.smooth hdeep
  have hline : ∀ d ∈ s.delivered, ∀ m ∈ s.sent, d.node = m.destination → Carried d.hops m d.message →
      (if d.node = gatewayAddress then
        Gateway.printed (Gateway.processMessage (pingActive d) (onAirLength d.message) d.message)
      else []) = if Reported m then [reportLine m] else [] := by
    intro d hd m hm hnode hcarried
    obtain ⟨n, hsender, hself, -, hversion⟩ := hsteady.posted m hm
    by_cases hgateway : m.destination = gatewayAddress
    · have hother : m.sender ≠ gatewayAddress := by
        rw [hsender, ← hgateway]
        exact hself.symm
      rw [if_pos (hnode.trans hgateway), hcarried.printed_eq hother hversion (hack m hm)]
      by_cases hsettled : Gateway.Settled m <;> simp [Reported, hgateway, hsettled]
    · rw [if_neg fun h => hgateway (hnode.symm.trans h), if_neg fun h : Reported m => hgateway h.1]
  obtain ⟨missing, hlength, hperm⟩ := hs.delivered_map hempty hline
  have hlines := hperm.flatten
  rw [List.flatten_append, ← List.flatMap_def, ← List.flatMap_def,
    ← flatMap_filter (fun d : Delivery => d.node = gatewayAddress), ← flatMap_filter Reported,
    ← List.map_eq_flatMap] at hlines
  have hshort : ∀ x ∈ missing.map List.length, x ≤ 1 := by
    intro x hx
    obtain ⟨lines, hmem, rfl⟩ := List.mem_map.mp hx
    obtain ⟨m, -, rfl⟩ := List.mem_map.mp (hperm.mem_iff.mp (List.mem_append_right _ hmem))
    split <;> simp
  refine ⟨missing.flatten, ?_, hlines⟩
  calc missing.flatten.length = (missing.map List.length).sum := List.length_flatten
    _ ≤ (missing.map List.length).length • 1 := List.sum_le_card_nsmul _ _ hshort
    _ = lost.length := by simp [hlength]

theorem reports_reach_controller_switchOn : ∃ s, Steady chain [0] s ∧
    s.printed (fun _ => false) = [ascii "2;1;1;0;2;1\n"] ∧ ∃ missing : List (List Byte),
      missing.length ≤ 1 ∧ (s.printed (fun _ => false) ++ missing).Perm
        [ascii "2;1;1;0;2;1\n", ascii "2;1;1;0;2;1\n"] := by
  obtain ⟨s, hsteady, hend⟩ : ∃ s, Steady chain [0] s ∧
      some (s.sent, s.air.length, s.printed fun _ => false) =
        some ([switchOn, switchOn, ping], 0, [ascii "2;1;1;0;2;1\n"]) :=
    Steady.of_runs [.originate 2#8 switchOn, .lose 0]
      [.originate 2#8 switchOn, .originate 2#8 ping, .arrive 0, .arrive 0, .arrive 0, .arrive 0]
      (by decide)
  obtain ⟨hsent, hair, hprinted⟩ : s.sent = [switchOn, switchOn, ping] ∧ s.air.length = 0 ∧
      s.printed (fun _ => false) = [ascii "2;1;1;0;2;1\n"] := by
    simpa using hend
  have hack : ∀ m ∈ s.sent, CountsHops m → m.isAck = false := by
    rw [hsent]
    decide
  have hlines := reports_reach_controller chain 2 chain_distance [0] s hsteady hack
    (List.eq_nil_of_length_eq_zero hair) fun _ => false
  have hreported : ([switchOn, switchOn, ping].filter Reported).map reportLine =
      [ascii "2;1;1;0;2;1\n", ascii "2;1;1;0;2;1\n"] := by decide
  rw [hsent, hreported] at hlines
  exact ⟨s, hsteady, hprinted, hlines⟩

end MySensors
