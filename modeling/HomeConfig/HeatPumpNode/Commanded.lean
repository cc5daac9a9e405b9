import HomeConfig.HeatPumpNode.Infrared
import HomeConfig.MySensors.Gateway

/-! From the controller to the heat pump: a line on the serial port of the gateway becomes the light that
the node sends. -/
namespace HeatPumpNode

open Arduino MySensors TreeRouting

variable {nodeId : Byte} {conv : FloatToInt} {m k : MyMessage}

/-- The sketch reads the ack bit, the type and the text of a message. -/
theorem receive_congr {k' : MyMessage} (hack : k.isAck = k'.isAck) (htype : k.type = k'.type)
    (htext : recvData k = recvData k') (hfloat : k.getFloat = k'.getFloat) (n : Node) :
    receive nodeId conv n k = receive nodeId conv n k' := by
  have hupdate : update conv n k = update conv n k' := by
    unfold update
    rw [htype, htext, hfloat]
  unfold receive
  rw [hack, hupdate]

/-- To the sketch, the message that arrives is the one that the line stands for. -/
theorem receive_text (hack : k.isAck = false) (htype : k.type = m.type) {m₁ : MyMessage}
    (htext : k = m₁.setString m.getString) (n : Node) :
    receive nodeId conv n k = receive nodeId conv n (setMessage m.sender (itemOf m) m.getString) := by
  have hasked : (setMessage m.sender (itemOf m) m.getString).type = m.type := type_setMessage
  refine receive_congr (hack.trans isAck_setMessage.symm) (htype.trans hasked.symm) ?_ ?_ n
  · rw [recvData_setMessage, htext, recvData, MyMessage.cString_data_setString, word]
  · rw [getFloat_setMessage, htext, MyMessage.getFloat_setString]

/-- The controller's command for a heat pump that the gateway knows: the gateway reads the line and sends
its message, the network carries it to the node, the node's library hands it over, and from the light that
the sketch then sends the heat pump learns what has been asked for, the line included. -/
theorem line_heard (net : Layout) (D : ℕ) (hdeep : ∀ n, net.distanceGW n ≤ D) (lost : List ℕ)
    (s : Mesh) (hsteady : Steady net lost s)
    (cs : List Byte) (g : SerialGateway) (before : List MyMessage)
    (hbefore : SerialGateway.powerUp.readAll (cs ++ [newline]) = some (g, before))
    (m : MyMessage) (hm : Sendable m) (hset : m.getCommand = cSet) (hgateway : m.sender ≠ gatewayAddress)
    (hknown : s.routes gatewayAddress m.sender ≠ auto) (libraryVersion : List Byte)
    (msgTmp : MyMessage) (node : Transport) (hnode : node.nodeId = m.sender) (conv : FloatToInt)
    (ms : List MyMessage)
    (hsettled : Settled m.sender conv ms (setMessage m.sender (itemOf m) m.getString))
    (hdiffers : Differs (after m.sender conv ms) (setMessage m.sender (itemOf m) m.getString)) :
    ∃ g' m' s', g.readAll (protocolFormat m) = some (g', [m']) ∧
      gatewayTransportProcess libraryVersion msgTmp m' = [.transportSendRoute m'] ∧
      s.step net (.originate gatewayAddress m') = some s' ∧
      ∀ (schedule : List ℕ) (t : Mesh),
        Machine.run (Mesh.step net) s' (schedule.map .arrive) = some t → t.air = [] →
        ∃ d ∈ t.delivered, d.serial = s.sent.length ∧ d.node = m.sender ∧
          (∀ payloadLength : Byte, payloadLength.toNat = Transport.expectedMessageLength d.message →
            ∀ message, .receive message ∈ node.processMessage payloadLength d.message ↔
              message = d.message) ∧
          ∀ pulses, List.Forall₂ Near ((commandsOf (acted
              (receive m.sender conv (after m.sender conv ms) d.message).2)).flatMap
                sendHvacMitsubishi) pulses →
            ∃ heard, listen pulses = [heard, heard] ∧
              heard.on = !(received (ms ++ [setMessage m.sender (itemOf m) m.getString])).askedOff ∧
              (∀ mode, (received (ms ++ [setMessage m.sender (itemOf m) m.getString])).mode = some mode →
                heard.mode = mode) ∧
              heard.fan =
                (if (received (ms ++ [setMessage m.sender (itemOf m) m.getString])).askedFan = .speed5
                  then .speed4
                  else (received (ms ++ [setMessage m.sender (itemOf m) m.getString])).askedFan) ∧
              ∃ k : ℤ, (received (ms ++ [setMessage m.sender (itemOf m) m.getString])).askedSetpoint =
                .finite k ∧ heard.temp = (max 16 (min 31 k)).toNat := by
  obtain ⟨g', m', s', hecho, hread, hprocess, hstep, hdelivered⟩ :=
    line_delivered hdeep hsteady hbefore hm hgateway hknown libraryVersion msgTmp
  refine ⟨g', m', s', hread, hprocess, hstep, fun schedule t hschedule hempty => ?_⟩
  obtain ⟨d, hd, hserial, hto, hcarried⟩ := hdelivered schedule t hschedule hempty
  obtain ⟨hack, m₁, htext⟩ := hecho.carried_text hcarried hset
  refine ⟨d, hd, hserial, hto, fun payloadLength hlength message =>
    hecho.receive_iff hcarried hm hset hnode hlength message, fun pulses hpulses => ?_⟩
  rw [receive_text hack (hcarried.type.trans hecho.type) htext] at hpulses
  have hasked : (setMessage m.sender (itemOf m) m.getString).isAck = false := isAck_setMessage
  exact ⟨_, listen_receive hasked hdiffers hpulses, hsettled.shown hasked hdiffers⟩

/-- The line for a setpoint of 25 degrees, as its echo would be sent. -/
def setpoint25 : MyMessage :=
  ({ MyMessage.new childIdHvac vHvacSetpointCool with sender := 2#8 }.setCommand cSet).setString
    (ascii "25")

/-- What node 2 has been told before. -/
def toldBefore : List MyMessage :=
  [setMessage 2#8 speed (ascii "max"), setMessage 2#8 flowState (ascii "coolon")]

theorem line_heard_setpoint25 : ∃ s g before g' m' s' t, Steady chain [0] s ∧
    SerialGateway.powerUp.readAll (ascii "noise" ++ [newline]) = some (g, before) ∧
    g.readAll (protocolFormat setpoint25) = some (g', [m']) ∧
    s.step chain (.originate gatewayAddress m') = some s' ∧
    Machine.run (Mesh.step chain) s' ([0, 0].map .arrive) = some t ∧
    ∃ d ∈ t.delivered, d.node = 2#8 ∧
      ∃ heard, listen ((commandsOf (acted (receive 2#8 .orZero (after 2#8 .orZero toldBefore)
        d.message).2)).flatMap sendHvacMitsubishi) = [heard, heard] ∧
        heard.on = true ∧ heard.fan = .speed4 ∧ heard.temp = 25 := by
  obtain ⟨s, hsteady, hline⟩ : ∃ s, Steady chain [0] s ∧ chainLine setpoint25 s = some (false, 0) :=
    Steady.of_runs [.originate 2#8 ping, .lose 0] [.originate 2#8 ping, .arrive 0, .arrive 0] (by decide)
  obtain ⟨hknown, g, before, g₁, messages, m₁, s₁, t, hbefore, hread₁, hm₁, hstep₁, ht, hempty⟩ :=
    chainLine_eq_some hline
  have hsendable : Sendable setpoint25 :=
    ⟨fun _ => ⟨⟨by decide, by decide⟩, by decide, by decide, by decide⟩, fun h => absurd h (by decide)⟩
  have hsettled : Settled 2#8 .orZero toldBefore
      (setMessage 2#8 (itemOf setpoint25) setpoint25.getString) :=
    ⟨⟨25, by decide, by decide, by decide +kernel⟩, by decide +kernel, by decide +kernel,
      fun _ => by decide +kernel⟩
  have hdiffers : Differs (after 2#8 .orZero toldBefore)
      (setMessage 2#8 (itemOf setpoint25) setpoint25.getString) :=
    .inl ⟨.inl rfl, by decide +kernel⟩
  obtain ⟨g', m', s', hread, -, hstep, hheard⟩ := line_heard chain 2 chain_distance [0] s hsteady
    (ascii "noise") g before hbefore setpoint25 hsendable (by decide) (by decide)
    hknown [] .clear ⟨2#8, 1#8, 2#8, 0#8, true, false, false, false⟩ rfl .orZero
    toldBefore hsettled hdiffers
  obtain ⟨rfl, rfl⟩ := Prod.mk.inj (Option.some.inj (hread₁.symm.trans hread))
  obtain rfl := Option.some.inj hm₁
  obtain rfl := Option.some.inj (hstep₁.symm.trans hstep)
  obtain ⟨d, hd, -, hnode, -, hlight⟩ := hheard [0, 0] t ht hempty
  obtain ⟨heard, hlisten, hon, -, hfan, k, hk, htemp⟩ := hlight _ (near_refl _)
  have hasked : (received (toldBefore ++ [setMessage 2#8 (itemOf setpoint25)
      setpoint25.getString])).askedSetpoint = .finite (25 : ℤ) := by decide +kernel
  have hk25 : k = 25 := by
    have hfinite := Single.finite.inj (hk.symm.trans hasked)
    exact_mod_cast hfinite
  refine ⟨s, g, before, g₁, _, s₁, t, hsteady, hbefore, hread₁, hstep₁, ht, d, hd, hnode, heard,
    hlisten, ?_, ?_, ?_⟩
  · rw [hon]
    decide +kernel
  · rw [hfan]
    decide +kernel
  · rw [htemp, hk25]
    rfl

end HeatPumpNode
