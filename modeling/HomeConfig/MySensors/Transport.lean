import HomeConfig.MySensors.Core

/-! The dispatcher that decides what becomes of a message from the radio: which ones the
library handles itself and which ones it hands over to the sketch. -/
namespace MySensors

open Arduino

/-! ### Types of internal messages -/

def iTime : Byte := 1#8
def iVersion : Byte := 2#8
def iIdResponse : Byte := 4#8
def iConfig : Byte := 6#8
def iFindParentRequest : Byte := 7#8
def iFindParentResponse : Byte := 8#8
def iChildren : Byte := 10#8
def iReboot : Byte := 13#8
def iSigningPresentation : Byte := 15#8
def iNonceRequest : Byte := 16#8
def iNonceResponse : Byte := 17#8
def iHeartbeatRequest : Byte := 18#8
def iPresentation : Byte := 19#8
def iDiscoverRequest : Byte := 20#8
def iDiscoverResponse : Byte := 21#8
def iPing : Byte := 24#8
def iPong : Byte := 25#8
def iRegistrationRequest : Byte := 26#8
def iRegistrationResponse : Byte := 27#8
def iDebug : Byte := 28#8
def iSignalReportRequest : Byte := 29#8
def iSignalReportReverse : Byte := 30#8
def iSignalReportResponse : Byte := 31#8

/-- A node without an id has this one. -/
def auto : Byte := 255#8

def broadcastAddress : Byte := 255#8

def distanceInvalid : Byte := 255#8

/-- INVALID_RSSI. -/
def invalidRssi : ℤ := -256

/-- What the dispatcher reads of the transport's configuration and state machine. -/
structure Transport where
  nodeId : Byte
  parentNodeId : Byte
  distanceGW : Byte
  token : Byte
  ready : Bool
  findingParentNode : Bool
  preferredParentFound : Bool
  pingActive : Bool
deriving DecidableEq, Repr

/-- What the dispatcher does with a message. -/
inductive Dispatch where
  | transmit (message : MyMessage)
  | assignNodeID (id : Byte)
  | setParent (parent distance : Byte)
  | pingResponse (hops : Byte)
  | reboot
  | nodeRegistered (registered : Bool)
  | isMetric (metric : Bool)
  | presentNode
  | sendHeartbeat
  | receiveTime (time : ℕ)
  | receive (message : MyMessage)
deriving DecidableEq, Repr

namespace Transport

variable {t : Transport} {m message : MyMessage} {payloadLength : Byte}

def routeMessage (t : Transport) (message : MyMessage) : List Dispatch :=
  if t.findingParentNode ∧ message.destination ≠ broadcastAddress then []
  else [.transmit { message with last := t.nodeId }]

def sendRoute (t : Transport) (message : MyMessage) : List Dispatch :=
  if t.ready then t.routeMessage message else []

/-- A message of the library's own. -/
def buildInternal (t : Transport) (destination type : Byte) : MyMessage :=
  build (.registered t.nodeId) destination nodeSensorId cInternal type

/-- Without signing support these messages are dropped. -/
def signerProcessInternal (message : MyMessage) : Bool :=
  message.type = iSigningPresentation ∨ message.type = iNonceRequest ∨
    message.type = iNonceResponse

/-- `_processInternalMessages` on a sensor node: nothing when the message is not for it. -/
def processInternalMessages (message : MyMessage) : Option (List Dispatch) :=
  if message.sender = gatewayAddress then
    if message.type = iReboot then some [.reboot]
    else if message.type = iRegistrationResponse then some [.nodeRegistered message.getBool]
    else if message.type = iConfig then
      some [.isMetric (message.bValue = 0#8 ∨ message.bValue = charByte 'M')]
    else if message.type = iPresentation then some [.presentNode]
    else if message.type = iHeartbeatRequest then some [.sendHeartbeat]
    else if message.type = iTime then some [.receiveTime message.ulValue]
    else if message.type = iChildren ∨ message.type = iDebug then some []
    else none
  else if message.type = iRegistrationRequest then some []
  else none

/-- A shorter way to the gateway is only adopted while a parent is being looked for. -/
def findParentResponse (t : Transport) (message : MyMessage) : List Dispatch :=
  let distance := message.getByte
  if t.findingParentNode ∧ distance ≠ distanceInvalid ∧ distance + 1#8 ≠ distanceInvalid ∧
      distance + 1#8 < t.distanceGW ∧ !t.preferredParentFound then
    [.setParent message.sender (distance + 1#8)]
  else []

/-- The internal messages after which no further processing is required. -/
def processInternal (t : Transport) (message : MyMessage) : Option (List Dispatch) :=
  if signerProcessInternal message then some []
  else if message.type = iIdResponse then
    if message.sensor = t.token ∨ message.sensor = auto then some [.assignNodeID message.getByte]
    else some []
  else if message.type = iFindParentResponse then some (t.findParentResponse message)
  else if message.type = iPing then
    some (t.routeMessage ((t.buildInternal message.sender iPong).setByte 1#8))
  else if message.type = iPong then
    if t.pingActive then some [.pingResponse message.getByte] else some []
  else
    match processInternalMessages message with
    | some done => some done
    | none =>
      if message.type = iSignalReportReverse then some []
      else if message.type = iSignalReportRequest then
        some (t.routeMessage
          ((t.buildInternal gatewayAddress iSignalReportResponse).setInt invalidRssi))
      else none

/-- The length field, limited to the size of the payload buffer. -/
def messageLength (message : MyMessage) : ℕ := min message.getLength.toNat maxPayload

/-- Limit the length field and terminate the payload. -/
def nullTerminate (message : MyMessage) : MyMessage :=
  let length := messageLength message
  { message.setLength (BitVec.ofNat 8 length) with
    data := message.data.takeD length 0#8 ++ 0#8 :: message.data.drop (length + 1) }

theorem setLength_write (m : MyMessage) (payloadType : Byte) (n : ℕ) (bytes : List Byte) :
    (m.write payloadType n bytes).setLength (BitVec.ofNat 8 n) = m.write payloadType n bytes := by
  have hinsert : BitField.insert (m.write payloadType n bytes).versionLength (BitVec.ofNat 8 n) 3 5 =
      (m.write payloadType n bytes).versionLength := BitField.insert_insert_self
  unfold MyMessage.setLength
  rw [hinsert]

theorem messageLength_setString {text : List Byte} (h : MyMessage.Fits text) (m : MyMessage) :
    messageLength (m.setString text) = text.length := by
  have hlen := h.length_le
  have hmax : maxPayload = 25 := rfl
  unfold messageLength MyMessage.setString
  rw [MyMessage.onWire_of_fits h, MyMessage.getLength_write (by omega)]
  exact min_eq_left hlen

/-- A text has been terminated by its sender. -/
theorem nullTerminate_setString {text : List Byte} (h : MyMessage.Fits text) (m : MyMessage) :
    nullTerminate (m.setString text) = m.setString text := by
  have hdata : (m.setString text).data = text ++ 0#8 :: m.data.drop (text.length + 1) := by
    unfold MyMessage.setString
    rw [MyMessage.data_write, MyMessage.onWire_of_fits h, List.length_append, List.length_singleton,
      List.append_assoc, List.singleton_append]
  have hlength : (m.setString text).setLength (BitVec.ofNat 8 text.length) = m.setString text := by
    unfold MyMessage.setString
    rw [MyMessage.onWire_of_fits h]
    exact setLength_write m pString text.length _
  have htext : (text ++ 0#8 :: m.data.drop (text.length + 1)).takeD text.length 0#8 = text := by
    rw [List.takeD_eq_take _ (by simp), List.take_left]
  have hrest : (text ++ 0#8 :: m.data.drop (text.length + 1)).drop (text.length + 1) =
      m.data.drop (text.length + 1) := by
    rw [List.drop_length_add_append]
    rfl
  unfold nullTerminate
  dsimp only
  rw [messageLength_setString h, hlength, hdata, htext, hrest, ← hdata]

/-- The answer to a message whose sender requests an ack. -/
def ackReply (t : Transport) (message : MyMessage) : List Dispatch :=
  if message.getRequestAck then
    t.sendRoute { (message.setRequestAck false).setAck true with
      sender := t.nodeId, destination := message.sender }
  else []

/-- A message to this node. Acks are not processed, only handed over. -/
def processAddressed (t : Transport) (message : MyMessage) : List Dispatch :=
  t.ackReply message ++
  if message.isAck then [.receive message]
  else if message.getCommand = cInternal then
    (t.processInternal message).getD [.receive message]
  else [.receive message]

/-- A broadcast. Internal ones never reach the sketch. -/
def processBroadcast (t : Transport) (message : MyMessage) : List Dispatch :=
  if message.getCommand = cInternal then
    if t.ready ∧ message.type = iFindParentRequest then []
    else if message.type = iFindParentResponse then []
    else if message.type = iDiscoverRequest ∧ message.last = t.parentNodeId then
      t.routeMessage ((t.buildInternal message.sender iDiscoverResponse).setByte t.parentNodeId)
    else []
  else if message.last = t.parentNodeId then [.receive message]
  else []

/-- The length that the radio has to report for the message. -/
def expectedMessageLength (message : MyMessage) : ℕ :=
  headerSize + if message.getSigned then maxPayload else messageLength message

/-- `transportProcessMessage` on a node that neither repeats, signs nor encrypts. -/
def processMessage (t : Transport) (payloadLength : Byte) (message : MyMessage) : List Dispatch :=
  if payloadLength.toNat ≠ expectedMessageLength message then []
  else if message.getVersion ≠ protocolVersion then []
  else if message.destination = t.nodeId then t.processAddressed (nullTerminate message)
  else if message.destination = broadcastAddress then t.processBroadcast message
  else []

/-! ### What reaches the sketch -/

/-- The internal messages to this node that the library keeps for itself. -/
def Kept (message : MyMessage) : Prop :=
  message.type ∈ [iSigningPresentation, iNonceRequest, iNonceResponse, iIdResponse,
    iFindParentResponse, iPing, iPong, iSignalReportReverse, iSignalReportRequest] ∨
  message.sender = gatewayAddress ∧
    message.type ∈ [iReboot, iRegistrationResponse, iConfig, iPresentation, iHeartbeatRequest,
      iTime, iChildren, iDebug] ∨
  message.sender ≠ gatewayAddress ∧ message.type = iRegistrationRequest

/-- The header passes the checks, and either it names this node and no work for the
library, or it is a broadcast from the parent that is not internal. -/
structure HandedOver (t : Transport) (payloadLength : Byte) (message : MyMessage) : Prop where
  length_eq : payloadLength.toNat = expectedMessageLength message
  version_eq : message.getVersion = protocolVersion
  route : if message.destination = t.nodeId then
      message.isAck = true ∨ message.getCommand ≠ cInternal ∨ ¬ Kept message
    else message.destination = broadcastAddress ∧ message.getCommand ≠ cInternal ∧
      message.last = t.parentNodeId

theorem receive_not_mem_routeMessage : Dispatch.receive m ∉ t.routeMessage message := by
  unfold routeMessage
  split <;> simp

theorem receive_not_mem_ackReply : Dispatch.receive m ∉ t.ackReply message := by
  unfold ackReply sendRoute
  split
  · split
    · exact receive_not_mem_routeMessage
    · exact List.not_mem_nil
  · exact List.not_mem_nil

theorem processInternalMessages_eq_none : processInternalMessages message = none ↔
    (message.sender = gatewayAddress → message.type ∉ [iReboot, iRegistrationResponse, iConfig,
      iPresentation, iHeartbeatRequest, iTime, iChildren, iDebug]) ∧
    (message.sender ≠ gatewayAddress → message.type ≠ iRegistrationRequest) := by
  unfold processInternalMessages
  by_cases hs : message.sender = gatewayAddress
  · simp only [hs, if_true]
    repeat' split
    all_goals simp_all
  · simp [hs]

/-- The library keeps exactly the messages named above. -/
theorem processInternal_eq_none : t.processInternal message = none ↔ ¬ Kept message := by
  have hcore : processInternalMessages message = none ↔ _ := processInternalMessages_eq_none
  unfold processInternal
  split
  · rename_i hsign
    simp only [signerProcessInternal, decide_eq_true_eq] at hsign
    rcases hsign with h | h | h <;> simp [Kept, h]
  · repeat' split
    all_goals simp_all [Kept, signerProcessInternal]

theorem receive_not_mem_processInternalMessages {es : List Dispatch}
    (h : processInternalMessages message = some es) : Dispatch.receive m ∉ es := by
  unfold processInternalMessages at h
  repeat' split at h
  all_goals
    cases h
    try simp

theorem receive_not_mem_findParentResponse :
    Dispatch.receive m ∉ t.findParentResponse message := by
  unfold findParentResponse
  dsimp only
  split <;> simp

theorem receive_not_mem_processInternal {es : List Dispatch}
    (h : t.processInternal message = some es) : Dispatch.receive m ∉ es := by
  unfold processInternal at h
  repeat' split at h
  all_goals cases h
  all_goals first
    | exact receive_not_mem_routeMessage
    | exact receive_not_mem_findParentResponse
    | exact receive_not_mem_processInternalMessages ‹_›
    | simp

theorem receive_mem_processAddressed : .receive m ∈ t.processAddressed message ↔
    m = message ∧ (message.isAck = true ∨ message.getCommand ≠ cInternal ∨ ¬ Kept message) := by
  have hack : Dispatch.receive m ∉ t.ackReply message := receive_not_mem_ackReply
  unfold processAddressed
  rw [List.mem_append, or_iff_right hack]
  split
  · rename_i h
    simp [h]
  · rename_i h
    split
    · rename_i hc
      cases hp : t.processInternal message with
      | none =>
        have hkept := processInternal_eq_none.mp hp
        simp [hkept]
      | some es =>
        have hkept : Kept message := by
          by_contra hk
          rw [processInternal_eq_none.mpr hk] at hp
          cases hp
        have hes : Dispatch.receive m ∉ es := receive_not_mem_processInternal hp
        simp [h, hc, hkept, hes]
    · rename_i hc
      simp [hc]

theorem receive_mem_processBroadcast : .receive m ∈ t.processBroadcast message ↔
    m = message ∧ message.getCommand ≠ cInternal ∧ message.last = t.parentNodeId := by
  unfold processBroadcast
  split
  · rename_i hc
    have hroute : Dispatch.receive m ∉ t.routeMessage
        ((t.buildInternal message.sender iDiscoverResponse).setByte t.parentNodeId) :=
      receive_not_mem_routeMessage
    repeat' split
    all_goals simp [hc, hroute]
  · rename_i hc
    split <;> simp_all

theorem handedOver_addressed (hd : message.destination = t.nodeId) :
    HandedOver t payloadLength message ↔
      payloadLength.toNat = expectedMessageLength message ∧
        message.getVersion = protocolVersion ∧
        (message.isAck = true ∨ message.getCommand ≠ cInternal ∨ ¬ Kept message) := by
  constructor
  · rintro ⟨hl, hv, hroute⟩
    rw [if_pos hd] at hroute
    exact ⟨hl, hv, hroute⟩
  · rintro ⟨hl, hv, hroute⟩
    exact ⟨hl, hv, by rwa [if_pos hd]⟩

theorem handedOver_other (hd : message.destination ≠ t.nodeId) :
    HandedOver t payloadLength message ↔
      payloadLength.toNat = expectedMessageLength message ∧
        message.getVersion = protocolVersion ∧ message.destination = broadcastAddress ∧
        message.getCommand ≠ cInternal ∧ message.last = t.parentNodeId := by
  constructor
  · rintro ⟨hl, hv, hroute⟩
    rw [if_neg hd] at hroute
    exact ⟨hl, hv, hroute⟩
  · rintro ⟨hl, hv, hroute⟩
    exact ⟨hl, hv, by rwa [if_neg hd]⟩

/-- What `receive` is called with, and when. -/
theorem receive_mem_processMessage : .receive m ∈ t.processMessage payloadLength message ↔
    HandedOver t payloadLength message ∧
      m = if message.destination = t.nodeId then nullTerminate message else message := by
  unfold processMessage
  split
  · rename_i hl
    refine iff_of_false List.not_mem_nil ?_
    rintro ⟨h, -⟩
    exact hl h.length_eq
  · rename_i hl
    split
    · rename_i hv
      refine iff_of_false List.not_mem_nil ?_
      rintro ⟨h, -⟩
      exact hv h.version_eq
    · rename_i hv
      rw [not_not] at hl hv
      by_cases hd : message.destination = t.nodeId
      · rw [if_pos hd, if_pos hd, receive_mem_processAddressed, handedOver_addressed hd,
          and_iff_right hl, and_iff_right hv, and_comm]
        -- the header is the same behind the termination
        exact Iff.rfl
      · rw [if_neg hd, if_neg hd, handedOver_other hd, and_iff_right hl, and_iff_right hv]
        split
        · rename_i hb
          rw [receive_mem_processBroadcast, and_iff_right hb, and_comm]
        · rename_i hb
          exact iff_of_false List.not_mem_nil fun h => hb h.1.1

end Transport

end MySensors
