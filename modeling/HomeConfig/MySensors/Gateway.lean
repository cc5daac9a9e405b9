import HomeConfig.MySensors.SerialGateway
import HomeConfig.MySensors.Delivery

/-! From the controller to a node: the gateway reads a line, hands the message to its transport, and the
network carries it to the node. -/
namespace MySensors

open Arduino TreeRouting

def buildGw (msg : MyMessage) (type : Byte) : MyMessage :=
  (({ msg with
      sender := gatewayAddress
      destination := gatewayAddress
      sensor := nodeSensorId
      type := type }.setCommand cInternal).setRequestAck false).setAck false

/-- What a gateway does with a message of its controller or of a node. -/
inductive GatewayEffect where
  | gatewayTransportSend (message : MyMessage)
  | processInternalMessages (message : MyMessage)
  | receive (message : MyMessage)
  | transportSendRoute (message : MyMessage)
  | transportRouteMessage (message : MyMessage)
  | pingResponse (hops : Byte)

/-- What a gateway does with a message of the controller; `msgTmp` is what has been left in the buffer
for answers. -/
def gatewayTransportProcess (libraryVersion : List Byte) (msgTmp msg : MyMessage) : List GatewayEffect :=
  if msg.destination = gatewayAddress then
    let msgTmp :=
      if msg.getRequestAck then
        { (msg.setRequestAck false).setAck true with sender := gatewayAddress, destination := msg.sender }
      else msgTmp
    (if msg.getRequestAck then [.gatewayTransportSend msgTmp] else []) ++
      if msg.getCommand = cInternal then
        if msg.type = iVersion then
          [.gatewayTransportSend ((buildGw msgTmp iVersion).setString libraryVersion)]
        else [.processInternalMessages msg]
      else [.receive msg]
  else [.transportSendRoute msg]

variable {net : Layout} {s t : Mesh} {m m' : MyMessage} {D : ℕ} {lost : List ℕ}

theorem Echoed.proper (h : Echoed m m') (hgateway : m.sender ≠ gatewayAddress)
    (hbroadcast : m.sender ≠ broadcastAddress) : Mesh.Proper gatewayAddress m' := by
  refine ⟨h.sender, ?_, ?_, h.current.version⟩
  · rw [h.destination]
    exact hgateway
  · rw [h.destination]
    exact hbroadcast

theorem exists_step_gateway (hproper : Mesh.Proper gatewayAddress m') :
    ∃ t, s.step net (.originate gatewayAddress m') = some t ∧ t.sent = s.sent ++ [m'] := by
  have hrole : net.role gatewayAddress = some .gateway := (net.gateway_iff _).mpr rfl
  have hsend : (net.router s.routes .gateway gatewayAddress).routeMessage m' =
      some ((net.router s.routes .gateway gatewayAddress).routeOf m',
        { m' with last := gatewayAddress }) :=
    if_neg fun h => Bool.noConfusion h.1
  refine ⟨{ s with
    air := s.air ++ [⟨s.sent.length, (net.router s.routes .gateway gatewayAddress).routeOf m',
      { m' with last := gatewayAddress }, 0⟩]
    sent := s.sent ++ [m'] }, ?_, rfl⟩
  simp only [Mesh.step, Mesh.node, if_pos hproper, hrole, Option.map_some, Option.bind_some]
  exact congrArg (Option.map _) hsend

/-- The message that was sent last is in the end delivered. -/
theorem Smooth.delivered_last (h : Smooth net D lost t) (hs : Smooth net D lost s)
    (hsent : t.sent = s.sent ++ [m']) (hempty : t.air = []) :
    ∃ d ∈ t.delivered, d.serial = s.sent.length ∧ d.node = m'.destination ∧
      Carried d.hops m' d.message := by
  have honce := h.healthy.once
  rw [hempty, h.lost_eq, hsent, List.length_append, List.length_singleton, List.map_nil,
    List.nil_append] at honce
  have hmem : s.sent.length ∈ t.delivered.map Delivery.serial ++ lost :=
    honce.mem_iff.mpr (List.mem_range.mpr (Nat.lt_succ_self _))
  have hnot : s.sent.length ∉ lost := by
    intro hlost
    rw [← hs.lost_eq] at hlost
    have hold := hs.healthy.once.mem_iff.mp
      (List.mem_append_right _ (List.mem_append_right _ hlost))
    exact absurd (List.mem_range.mp hold) (Nat.lt_irrefl _)
  obtain ⟨d, hd, hserial⟩ := List.mem_map.mp ((List.mem_append.mp hmem).resolve_right hnot)
  obtain ⟨m, hm, hnode, hcarried⟩ := h.healthy.kept.arrived d hd
  rw [hsent, hserial, List.getElem?_concat_length] at hm
  obtain rfl := Option.some.inj hm
  exact ⟨d, hd, hserial, hnode, hcarried⟩

/-- What becomes of a line for a node that the gateway knows. -/
theorem line_delivered (hdeep : ∀ n, net.distanceGW n ≤ D) (hsteady : Steady net lost s)
    {cs : List Byte} {g : SerialGateway} {before : List MyMessage}
    (hbefore : SerialGateway.powerUp.readAll (cs ++ [newline]) = some (g, before)) (hm : Sendable m)
    (hgateway : m.sender ≠ gatewayAddress) (hknown : s.routes gatewayAddress m.sender ≠ auto)
    (libraryVersion : List Byte) (msgTmp : MyMessage) :
    ∃ g' m' s', Echoed m m' ∧ g.readAll (protocolFormat m) = some (g', [m']) ∧
      gatewayTransportProcess libraryVersion msgTmp m' = [.transportSendRoute m'] ∧
      s.step net (.originate gatewayAddress m') = some s' ∧
      ∀ (schedule : List ℕ) (t : Mesh),
        Machine.run (Mesh.step net) s' (schedule.map .arrive) = some t → t.air = [] →
        ∃ d ∈ t.delivered, d.serial = s.sent.length ∧ d.node = m.sender ∧
          Carried d.hops m' d.message := by
  have hs : Smooth net D lost s := hsteady.smooth hdeep
  have hstart : Current SerialGateway.powerUp.message := ⟨by decide, by decide⟩
  have hms : ∀ k ∈ [m], Sendable k := fun k hk => List.mem_singleton.mp hk ▸ hm
  obtain ⟨g', after, hread, -, hafter⟩ := SerialGateway.readAll_lines
    (SerialGateway.input_of_readAll_newline hbefore)
    (SerialGateway.current_of_readAll hstart hbefore) hms
  obtain ⟨m', rest, hecho, hnil, rfl⟩ := List.forall₂_cons_left_iff.mp hafter
  obtain rfl := List.forall₂_nil_left_iff.mp hnil
  rw [List.flatMap_singleton] at hread
  have hbroadcast : m.sender ≠ broadcastAddress := ne_auto_of_role (hs.healthy.kept.tables _ _ hknown).1
  obtain ⟨s', hstep, hsent⟩ : ∃ t, s.step net (.originate gatewayAddress m') = some t ∧
      t.sent = s.sent ++ [m'] := exists_step_gateway (hecho.proper hgateway hbroadcast)
  have hprocess : gatewayTransportProcess libraryVersion msgTmp m' = [.transportSendRoute m'] := by
    refine if_neg ?_
    rw [hecho.destination]
    exact hgateway
  refine ⟨g', m', s', hecho, hread, hprocess, hstep, fun schedule t hschedule hempty => ?_⟩
  have hlossless : Lossless net s (.originate gatewayAddress m') s' := by
    refine .inr ⟨?_, fun hrepeater => ?_⟩
    · rw [hecho.destination]
      exact hknown
    · rw [(net.gateway_iff _).mpr rfl] at hrepeater
      cases hrepeater
  obtain ⟨ht, hkeep, -⟩ := smooth_arrivals hdeep (hs.step hdeep hlossless hstep) hschedule
  obtain ⟨d, hd, hserial, hnode, hcarried⟩ := ht.delivered_last hs (hkeep.trans hsent) hempty
  exact ⟨d, hd, hserial, hnode.trans hecho.destination, hcarried⟩

/-- A line behind some noise, carried by the network of three: whether the gateway does not know the node,
and how many messages are left on the air. -/
def chainLine (m : MyMessage) (s : Mesh) : Option (Bool × ℕ) :=
  (SerialGateway.powerUp.readAll (ascii "noise" ++ [newline])).bind fun r =>
    (r.1.readAll (protocolFormat m)).bind fun r' =>
      r'.2.head?.bind fun m' =>
        (s.step chain (.originate gatewayAddress m')).bind fun s' =>
          (Machine.run (Mesh.step chain) s' ([0, 0].map .arrive)).map fun t =>
            (decide (s.routes gatewayAddress m.sender = auto), t.air.length)

theorem chainLine_eq_some (h : chainLine m s = some (false, 0)) :
    s.routes gatewayAddress m.sender ≠ auto ∧ ∃ g before g' ms m' s' t,
      SerialGateway.powerUp.readAll (ascii "noise" ++ [newline]) = some (g, before) ∧
      g.readAll (protocolFormat m) = some (g', ms) ∧ ms.head? = some m' ∧
      s.step chain (.originate gatewayAddress m') = some s' ∧
      Machine.run (Mesh.step chain) s' ([0, 0].map .arrive) = some t ∧ t.air = [] := by
  obtain ⟨⟨g, before⟩, hbefore, h⟩ := Option.bind_eq_some_iff.mp h
  obtain ⟨⟨g', ms⟩, hread, h⟩ := Option.bind_eq_some_iff.mp h
  obtain ⟨m', hm', h⟩ := Option.bind_eq_some_iff.mp h
  obtain ⟨s', hstep, h⟩ := Option.bind_eq_some_iff.mp h
  obtain ⟨t, ht, hend⟩ := Option.map_eq_some_iff.mp h
  obtain ⟨hauto, hair⟩ := Prod.mk.inj hend
  exact ⟨of_decide_eq_false hauto, g, before, g', ms, m', s', t, hbefore, hread, hm', hstep, ht,
    List.eq_nil_of_length_eq_zero hair⟩

/-- The controller's command for a node that the gateway knows: whatever has come over the serial line
before the last newline and whatever is on the air, the line is read as one message, the gateway routes
it, and when the air is empty again the node has got it, with the sensor, command, type and text of the
line. The text must fit the message and its line, and a ping or a pong would be counted on its way. -/
theorem line_reaches_node (net : Layout) (D : ℕ) (hdeep : ∀ n, net.distanceGW n ≤ D) (lost : List ℕ)
    (s : Mesh) (hsteady : Steady net lost s)
    (cs : List Byte) (g : SerialGateway) (before : List MyMessage)
    (hbefore : SerialGateway.powerUp.readAll (cs ++ [newline]) = some (g, before))
    (m : MyMessage) (hm : Sendable m) (hcounts : ¬ CountsHops m) (hgateway : m.sender ≠ gatewayAddress)
    (hknown : s.routes gatewayAddress m.sender ≠ auto) (libraryVersion : List Byte)
    (msgTmp : MyMessage) :
    ∃ g' m' s', g.readAll (protocolFormat m) = some (g', [m']) ∧
      gatewayTransportProcess libraryVersion msgTmp m' = [.transportSendRoute m'] ∧
      s.step net (.originate gatewayAddress m') = some s' ∧
      ∀ (schedule : List ℕ) (t : Mesh),
        Machine.run (Mesh.step net) s' (schedule.map .arrive) = some t → t.air = [] →
        ∃ d ∈ t.delivered, d.serial = s.sent.length ∧ d.node = m.sender ∧
          d.message.sensor = m.sensor ∧ d.message.getCommand = m.getCommand ∧
          d.message.type = m.type ∧ d.message.getString = m.getString := by
  obtain ⟨g', m', s', hecho, hread, hprocess, hstep, hdelivered⟩ :=
    line_delivered hdeep hsteady hbefore hm hgateway hknown libraryVersion msgTmp
  refine ⟨g', m', s', hread, hprocess, hstep, fun schedule t hschedule hempty => ?_⟩
  obtain ⟨d, hd, hserial, hnode, hcarried⟩ := hdelivered schedule t hschedule hempty
  have hcounts' : ¬ CountsHops m' := by
    unfold CountsHops
    rwa [hecho.command, hecho.type]
  have htext : d.message.getString = m'.getString := by
    rw [hcarried.content hcounts']
    rfl
  exact ⟨d, hd, hserial, hnode, hcarried.sensor.trans hecho.sensor,
    hcarried.command.trans hecho.command, hcarried.type.trans hecho.type, htext.trans hecho.text⟩

theorem line_reaches_node_switchOn : ∃ s g before g' m' s' t, Steady chain [0] s ∧
    SerialGateway.powerUp.readAll (ascii "noise" ++ [newline]) = some (g, before) ∧
    g.readAll (protocolFormat switchOn) = some (g', [m']) ∧
    s.step chain (.originate gatewayAddress m') = some s' ∧
    Machine.run (Mesh.step chain) s' ([0, 0].map .arrive) = some t ∧
    ∃ d ∈ t.delivered, d.node = 2#8 ∧ d.message.getString = switchOn.getString := by
  obtain ⟨s, hsteady, hline⟩ : ∃ s, Steady chain [0] s ∧ chainLine switchOn s = some (false, 0) :=
    Steady.of_runs [.originate 2#8 ping, .lose 0] [.originate 2#8 ping, .arrive 0, .arrive 0] (by decide)
  obtain ⟨hknown, g, before, g₁, ms, m₁, s₁, t, hbefore, hread₁, hm₁, hstep₁, ht, hempty⟩ :=
    chainLine_eq_some hline
  obtain ⟨g', m', s', hread, -, hstep, hdelivers⟩ := line_reaches_node chain 2 chain_distance [0] s hsteady
    (ascii "noise") g before hbefore switchOn sendable_switchOn (fun h => absurd h.1 (by decide))
    (by decide) hknown [] .clear
  obtain ⟨rfl, rfl⟩ := Prod.mk.inj (Option.some.inj (hread₁.symm.trans hread))
  obtain rfl := Option.some.inj hm₁
  obtain rfl := Option.some.inj (hstep₁.symm.trans hstep)
  obtain ⟨d, hd, -, hnode, -, -, -, htext⟩ := hdelivers [0, 0] t ht hempty
  exact ⟨s, g, before, g₁, _, s₁, t, hsteady, hbefore, hread₁, hstep₁, ht, d, hd, hnode, htext⟩

/-! ### To the sketch -/

section

variable {hops : ℕ} {k : MyMessage}

/-- A command arrives as the text that it was. -/
theorem Echoed.carried_text (h : Echoed m m') (hcarried : Carried hops m' k) (hset : m.getCommand = cSet) :
    k.isAck = false ∧ ∃ m₁ : MyMessage, k = m₁.setString m.getString := by
  have hcounts : ¬ CountsHops m' := by
    rintro ⟨hinternal, -⟩
    rw [h.command, hset] at hinternal
    exact absurd hinternal (by decide)
  have hstream : m.getCommand ≠ cStream := by
    rw [hset]
    decide
  have hack := h.ack
  have hk := hcarried.content hcounts
  obtain ⟨m₁, rfl⟩ := h.plain hstream
  refine ⟨?_, { m₁ with last := k.last }, hk⟩
  rw [hk]
  exact hack

/-- The dispatcher of the node hands over the command as it has come. -/
theorem Echoed.receive_iff (h : Echoed m m') (hcarried : Carried hops m' k) (hm : Sendable m)
    (hset : m.getCommand = cSet) {node : Transport} (hnode : node.nodeId = m.sender)
    {payloadLength : Byte} (hlength : payloadLength.toNat = Transport.expectedMessageLength k)
    (message : MyMessage) : .receive message ∈ node.processMessage payloadLength k ↔ message = k := by
  obtain ⟨-, m₁, hk⟩ := h.carried_text hcarried hset
  have hstream : m.getCommand ≠ cStream := by
    rw [hset]
    decide
  have hinternal : k.getCommand ≠ cInternal := by
    rw [hcarried.command, h.command, hset]
    decide
  have hdestination : k.destination = node.nodeId := by
    rw [hcarried.destination, h.destination, hnode]
  have hterminated : Transport.nullTerminate k = k := by
    rw [hk]
    exact Transport.nullTerminate_setString (hm.text hstream).1 m₁
  have hover : node.HandedOver payloadLength k :=
    (Transport.handedOver_addressed hdestination).mpr
      ⟨hlength, hcarried.version.trans h.current.version, .inr (.inl hinternal)⟩
  rw [Transport.receive_mem_processMessage, if_pos hdestination, hterminated, and_iff_right hover]

end

end MySensors
