import HomeConfig.GarageStation.Relay
import HomeConfig.MySensors.Transport

/-! The input filter: which of the messages that the transport hands over move the door. -/
namespace GarageStation

open Arduino MySensors

variable {n : Node} {t : Transport} {payloadLength : Byte} {m message : MyMessage}

/-- The messages meant for the door: a V_STATUS set for the relay child, not an ack. -/
structure Wanted (m : MyMessage) : Prop where
  command_eq : m.getCommand = cSet
  not_ack : m.isAck = false
  type_eq : m.type = vStatus
  sensor_eq : m.sensor = childIdRelayState

instance : Decidable (Wanted m) :=
  decidable_of_iff
    (m.getCommand = cSet ∧ m.isAck = false ∧ m.type = vStatus ∧ m.sensor = childIdRelayState)
    ⟨fun h => ⟨h.1, h.2.1, h.2.2.1, h.2.2.2⟩, fun h => ⟨h.1, h.2, h.3, h.4⟩⟩

/-- The node does nothing that can be seen. -/
def Quiet (es : List (Effect Action)) : Prop :=
  Untouched mainDoorRelay (acted es) ∧ sent es = []

/-- A message that is handed over with the type byte of V_STATUS but means something else. -/
structure Misread (t : Transport) (payloadLength : Byte) (message : MyMessage) : Prop where
  handed_over : t.HandedOver payloadLength message
  type_eq : message.type = vStatus
  unwanted : ¬ Wanted message

/-- The dispatcher changes neither command, ack bit, type nor child. -/
theorem wanted_nullTerminate : Wanted (Transport.nullTerminate m) ↔ Wanted m := by
  constructor
  · rintro ⟨hc, ha, ht, hs⟩
    exact ⟨hc, ha, ht, hs⟩
  · rintro ⟨hc, ha, ht, hs⟩
    exact ⟨hc, ha, ht, hs⟩

/-- Once the initial value is in, the type byte alone decides. -/
theorem quiet_receive_iff (hn : n.initialRelayStateSent = true) :
    Quiet (receive t.nodeId n m).2 ↔ m.type ≠ vStatus := by
  constructor
  · rintro ⟨-, hsent⟩ ht
    rw [receive_status ht, if_pos hn, sent_pulseRelay] at hsent
    cases hsent
  · intro ht
    simp [receive, ht, Quiet, Untouched]

/-- Every message that reaches the sketch and is not meant for the door leaves the node quiet,
unless it is misread. -/
theorem quiet_iff_not_misread (hn : n.initialRelayStateSent = true) :
    (∀ m, .receive m ∈ t.processMessage payloadLength message → ¬ Wanted m →
      Quiet (receive t.nodeId n m).2) ↔ ¬ Misread t payloadLength message := by
  constructor
  · rintro h ⟨hover, ht, hu⟩
    let m := if message.destination = t.nodeId then Transport.nullTerminate message else message
    have hm : .receive m ∈ t.processMessage payloadLength message :=
      Transport.receive_mem_processMessage.mpr ⟨hover, rfl⟩
    have htype : m.type = vStatus := by
      dsimp only [m]
      split
      · exact ht
      · exact ht
    have hunwanted : ¬ Wanted m := by
      dsimp only [m]
      split
      · rwa [wanted_nullTerminate]
      · exact hu
    exact (quiet_receive_iff hn).mp (h m hm hunwanted) htype
  · intro h m hm hunwanted
    obtain ⟨hover, rfl⟩ := Transport.receive_mem_processMessage.mp hm
    rw [quiet_receive_iff hn]
    intro ht
    refine h ⟨hover, ?_, ?_⟩
    · split at ht
      · exact ht
      · exact ht
    · split at hunwanted
      · rwa [wanted_nullTerminate] at hunwanted
      · exact hunwanted

/-- A station with id 42, one hop from the gateway. -/
def station : Transport := ⟨42#8, 0#8, 1#8, 0#8, true, false, false, false⟩

/-- A message without payload from the gateway to the station. -/
def fromGateway (command type sensor : Byte) : MyMessage :=
  ⟨0#8, 0#8, 42#8, protocolVersion, command, type, sensor, []⟩

/-- A station that has received its initial value. -/
def initialized : Node := { Node.boot true with initialRelayStateSent := true }

/-- A temperature sent to the station by mistake does nothing. -/
theorem quiet_iff_not_misread_temp :
    (∀ m, .receive m ∈ station.processMessage 7#8 (fromGateway cSet vTemp childIdTemp) →
      ¬ Wanted m → Quiet (receive station.nodeId initialized m).2) ↔
    ¬ Misread station 7#8 (fromGateway cSet vTemp childIdTemp) :=
  quiet_iff_not_misread rfl

/-- An I_VERSION message and a status for the door sensor both move the door. -/
theorem unwanted_moves_door :
    (∃ m, .receive m ∈ station.processMessage 7#8 (fromGateway cInternal iVersion nodeSensorId) ∧
      ¬ Wanted m ∧ pulses mainDoorRelay false (acted (receive 42#8 initialized m).2) = 1) ∧
    ∃ m, .receive m ∈
        station.processMessage 7#8 (fromGateway cSet vStatus childIdGarageDoor1State) ∧
      ¬ Wanted m ∧ pulses mainDoorRelay false (acted (receive 42#8 initialized m).2) = 1 := by
  refine ⟨⟨Transport.nullTerminate (fromGateway cInternal iVersion nodeSensorId), ?_⟩,
    ⟨Transport.nullTerminate (fromGateway cSet vStatus childIdGarageDoor1State), ?_⟩⟩
  · decide +kernel
  · decide +kernel

end GarageStation
