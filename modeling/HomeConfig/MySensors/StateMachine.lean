import HomeConfig.MySensors.Transport

/-! The state machine behind the transport of a sensor node: how it looks for a parent, an id and
the gateway, and what it keeps while messages come and go. -/
namespace MySensors

open Arduino

def iIdRequest : Byte := 3#8

def maxTxFailures : ℕ := 5
def maxTsmFailures : ℕ := 7
def timeoutFailureStateMs : ℕ := 10000
def timeoutExtFailureStateMs : ℕ := 60000
def stateTimeoutMs : ℕ := 2000
def maxStateRetries : ℕ := 3

def invalidHops : Byte := 255#8

/-- The clock is a 32-bit counter. -/
def hwMillis (now : ℕ) : ℕ := now % 2 ^ 32

inductive TransportState where
  | stInit
  | stParent
  | stID
  | stUplink
  | stReady
  | stFailure
deriving DecidableEq, Repr

/-- The part of the EEPROM that `transportConfig_t` is read from. -/
structure StoredConfig where
  nodeId : Byte
  parentNodeId : Byte
  distanceGW : Byte
deriving DecidableEq, Repr

/-- `_transportSM` and `_transportConfig`; `presenting` counts the presentations that have been
called from within `transportSwitchSM` and have not returned. -/
structure TransportSM extends Transport where
  stored : StoredConfig
  currentState : Option TransportState
  stateEnter : ℕ
  lastUplinkCheck : ℕ
  transportActive : Bool
  stateRetries : ℕ
  failedUplinkTransmissions : ℕ
  failureCounter : ℕ
  pingResponse : Byte
  presentationSent : Bool
  presenting : ℕ
deriving DecidableEq, Repr

/-- What comes out of the transport: a message for the radio with its address, or work for the
core and the sketch. -/
inductive Output where
  | air (route : Byte) (message : MyMessage)
  | core (work : Dispatch)
deriving DecidableEq, Repr

namespace TransportSM

/-- The end of `transportRouteMessage`: the route, the radio's verdict `ok`, and the counter.
Broadcasts count as sent. -/
def transmit (ok : MyMessage → Bool) (s : TransportSM) (message : MyMessage) :
    TransportSM × List Output :=
  let route := if message.destination = broadcastAddress then broadcastAddress else s.parentNodeId
  let result := ok message || decide (route = broadcastAddress)
  (if route = s.parentNodeId then
      { s with failedUplinkTransmissions :=
          if result then 0 else (s.failedUplinkTransmissions + 1) % 2 ^ 4 }
    else s, [.air route message])

def validId (nodeId : Byte) : Prop := nodeId ≠ gatewayAddress ∧ nodeId ≠ auto

instance : DecidablePred validId := fun _ => inferInstanceAs (Decidable (_ ∧ _))

def assignNodeID (s : TransportSM) (newNodeId : Byte) : TransportSM :=
  if validId newNodeId then
    { s with nodeId := newNodeId, stored := { s.stored with nodeId := newNodeId } }
  else { s with nodeId := auto }

/-- What the decisions of the dispatcher do to the transport. -/
def perform (ok : MyMessage → Bool) (s : TransportSM) : Dispatch → TransportSM × List Output
  | .transmit message => s.transmit ok message
  | .assignNodeID newNodeId => (s.assignNodeID newNodeId, [])
  | .setParent parent distance => ({ s with parentNodeId := parent, distanceGW := distance }, [])
  | .pingResponse hops => ({ s with pingActive := false, pingResponse := hops }, [])
  | work => (s, [.core work])

def performAll (ok : MyMessage → Bool) (s : TransportSM) : List Dispatch → TransportSM × List Output
  | [] => (s, [])
  | d :: ds =>
    let done := performAll ok (s.perform ok d).1 ds
    (done.1, (s.perform ok d).2 ++ done.2)

/-- `transportRouteMessage` with its effect on the state. -/
def route (ok : MyMessage → Bool) (s : TransportSM) (message : MyMessage) :
    TransportSM × List Output :=
  s.performAll ok (s.routeMessage message)

/-! ### Entering a state -/

def stInitTransition (s : TransportSM) : TransportSM :=
  { s with
    pingActive := false
    transportActive := false
    lastUplinkCheck := 0
    nodeId := s.stored.nodeId
    parentNodeId := s.stored.parentNodeId
    distanceGW := s.stored.distanceGW }

def stParentTransition (ok : MyMessage → Bool) (s : TransportSM) : TransportSM × List Output :=
  let s := { s with
    ready := false
    preferredParentFound := false
    findingParentNode := true
    distanceGW := distanceInvalid
    parentNodeId := auto }
  s.route ok ((s.buildInternal broadcastAddress iFindParentRequest).setString [])

/-- The token marks the answer; it must not be the one that every node accepts. -/
def tokenOf (now : ℕ) : Byte :=
  let token := BitVec.ofNat 8 (hwMillis now)
  if token = auto then token + 1 else token

def stIDTransition (ok : MyMessage → Bool) (now : ℕ) (s : TransportSM) :
    TransportSM × List Output :=
  if s.nodeId = auto then
    let s := { s with token := tokenOf now }
    s.route ok ((build (.registered s.nodeId) gatewayAddress s.token cInternal iIdRequest).setString [])
  else (s, [])

def stUplinkTransition (ok : MyMessage → Bool) (s : TransportSM) : TransportSM × List Output :=
  let s := { s with pingResponse := invalidHops, pingActive := true }
  s.route ok ((s.buildInternal gatewayAddress iPing).setByte 1#8)

/-- The callback presents the node when it has not been presented. -/
def stReadyTransition (s : TransportSM) : TransportSM :=
  { s with
    ready := true
    failureCounter := 0
    failedUplinkTransmissions := 0
    presenting := if s.presentationSent then s.presenting else s.presenting + 1 }

def stFailureTransition (s : TransportSM) : TransportSM :=
  { s with
    failureCounter := if s.failureCounter < maxTsmFailures then s.failureCounter + 1
      else s.failureCounter
    ready := false
    transportActive := false }

def transition (ok : MyMessage → Bool) (now : ℕ) (s : TransportSM) :
    TransportState → TransportSM × List Output
  | .stInit => (s.stInitTransition, [])
  | .stParent => s.stParentTransition ok
  | .stID => s.stIDTransition ok now
  | .stUplink => s.stUplinkTransition ok
  | .stReady => (s.stReadyTransition, [])
  | .stFailure => (s.stFailureTransition, [])

def mark (s : TransportSM) (newState : TransportState) : TransportSM :=
  if s.currentState = some newState then { s with stateRetries := (s.stateRetries + 1) % 2 ^ 3 }
  else { s with stateRetries := 0, currentState := some newState }

/-- `transportSwitchSM`; the transition starts at `now` and has returned at `entered`. -/
def switchSM (ok : MyMessage → Bool) (now entered : ℕ) (s : TransportSM)
    (newState : TransportState) : TransportSM × List Output :=
  let done := (s.mark newState).transition ok now newState
  ({ done.1 with stateEnter := hwMillis entered }, done.2)

/-! ### Leaving a state: what the updates prepare, and the state they switch to -/

def timeInState (s : TransportSM) (now : ℕ) : ℕ := (hwMillis now + 2 ^ 32 - s.stateEnter) % 2 ^ 32

/-- `radio` is the result of `transportInit`. -/
def stInitUpdate (radio : Bool) (s : TransportSM) : TransportSM × TransportState :=
  if !radio then (s, .stFailure)
  else
    let s := { s with transportActive := true }
    if s.nodeId = auto then (s, .stParent)
    else if validId s.nodeId then (s.assignNodeID s.nodeId, .stParent)
    else (s.assignNodeID s.nodeId, .stFailure)

def stParentUpdate (now : ℕ) (s : TransportSM) : Option (TransportSM × TransportState) :=
  if stateTimeoutMs < s.timeInState now ∨ s.preferredParentFound then
    if s.parentNodeId ≠ auto then some ({ s with findingParentNode := false }, .stID)
    else if s.stateRetries < maxStateRetries then some (s, .stParent)
    else some (s, .stFailure)
  else none

def stIDUpdate (now : ℕ) (s : TransportSM) : Option (TransportSM × TransportState) :=
  if s.nodeId ≠ auto then some (s, .stUplink)
  else if stateTimeoutMs < s.timeInState now then
    if s.stateRetries < maxStateRetries then some (s, .stID) else some (s, .stFailure)
  else none

def stUplinkUpdate (now : ℕ) (s : TransportSM) : Option (TransportSM × TransportState) :=
  if s.pingResponse ≠ invalidHops then
    some ({ s with
      lastUplinkCheck := hwMillis now
      distanceGW := if s.pingResponse ≠ s.distanceGW then s.pingResponse else s.distanceGW }, .stReady)
  else if stateTimeoutMs < s.timeInState now then
    if s.stateRetries < maxStateRetries then some (s, .stUplink)
    else some ({ s with pingActive := false }, .stParent)
  else none

def stReadyUpdate (s : TransportSM) : Option (TransportSM × TransportState) :=
  if maxTxFailures < s.failedUplinkTransmissions then some (s, .stParent) else none

def isTransportExtendedFailure (s : TransportSM) : Bool := s.failureCounter = maxTsmFailures

def failureTimeout (s : TransportSM) : ℕ :=
  if s.isTransportExtendedFailure then timeoutExtFailureStateMs else timeoutFailureStateMs

def stFailureUpdate (now : ℕ) (s : TransportSM) : Option (TransportSM × TransportState) :=
  if s.failureTimeout < s.timeInState now then some (s, .stInit) else none

def next (radio : Bool) (now : ℕ) (s : TransportSM) : Option (TransportSM × TransportState) :=
  match s.currentState with
  | none => none
  | some .stInit => some (s.stInitUpdate radio)
  | some .stParent => s.stParentUpdate now
  | some .stID => s.stIDUpdate now
  | some .stUplink => s.stUplinkUpdate now
  | some .stReady => s.stReadyUpdate
  | some .stFailure => s.stFailureUpdate now

/-- `transportUpdateSM`. -/
def updateSM (ok : MyMessage → Bool) (radio : Bool) (now entered : ℕ) (s : TransportSM) :
    TransportSM × List Output :=
  match s.next radio now with
  | none => (s, [])
  | some (prepared, newState) => prepared.switchSM ok now entered newState

/-- The static variables at power up, then `transportInitialise`. -/
def powerUp (stored : StoredConfig) (now : ℕ) : TransportSM :=
  (switchSM (fun _ => true) now now
    { nodeId := 0#8, parentNodeId := 0#8, distanceGW := 0#8, token := auto, ready := false
      findingParentNode := false, preferredParentFound := false, pingActive := false
      stored, currentState := none, stateEnter := 0, lastUplinkCheck := 0, transportActive := false
      stateRetries := 0, failedUplinkTransmissions := 0, failureCounter := 0, pingResponse := 0#8
      presentationSent := false, presenting := 0 } .stInit).1

end TransportSM

/-- What happens to the transport: its update is called, a message comes in, the core or the sketch
hands a message over, a presentation returns. `ok` says which transmissions the radio reports as
acknowledged. -/
inductive TransportEvent where
  | update (ok : MyMessage → Bool) (radio : Bool) (now entered : ℕ)
  | message (ok : MyMessage → Bool) (payloadLength : Byte) (message : MyMessage)
  | send (ok : MyMessage → Bool) (message : MyMessage)
  | presented (now : ℕ)

namespace TransportSM

def step (s : TransportSM) : TransportEvent → TransportSM × List Output
  | .update ok radio now entered => s.updateSM ok radio now entered
  | .message ok payloadLength message =>
    if s.transportActive then s.performAll ok (s.processMessage payloadLength message) else (s, [])
  | .send ok message => s.performAll ok (s.sendRoute message)
  | .presented now =>
    if 0 < s.presenting then
      ({ s with presentationSent := true, presenting := s.presenting - 1, stateEnter := hwMillis now }, [])
    else (s, [])

def run (s : TransportSM) : List TransportEvent → TransportSM × List Output
  | [] => (s, [])
  | e :: es => ((run (s.step e).1 es).1, (s.step e).2 ++ (run (s.step e).1 es).2)

/-! ### What sending and receiving leave alone -/

variable {s t : TransportSM} {ok : MyMessage → Bool} {radio : Bool} {now entered : ℕ}
  {message m : MyMessage} {route : Byte} {newState : TransportState}

theorem transmit_fst (ok : MyMessage → Bool) (s : TransportSM) (message : MyMessage) :
    ∃ n, (s.transmit ok message).1 = { s with failedUplinkTransmissions := n } := by
  unfold transmit
  dsimp only
  generalize (if message.destination = broadcastAddress then broadcastAddress
    else s.parentNodeId) = route
  by_cases h : route = s.parentNodeId
  · rw [if_pos h]
    exact ⟨_, rfl⟩
  · rw [if_neg h]
    exact ⟨s.failedUplinkTransmissions, rfl⟩

theorem route_fst (ok : MyMessage → Bool) (s : TransportSM) (message : MyMessage) :
    ∃ n, (s.route ok message).1 = { s with failedUplinkTransmissions := n } := by
  unfold TransportSM.route Transport.routeMessage
  split
  · exact ⟨s.failedUplinkTransmissions, rfl⟩
  · exact transmit_fst ok s _

theorem route_snd : (s.route ok message).2 =
    if s.findingParentNode = true ∧ message.destination ≠ broadcastAddress then []
    else [.air (if message.destination = broadcastAddress then broadcastAddress else s.parentNodeId)
      { message with last := s.nodeId }] := by
  unfold TransportSM.route Transport.routeMessage
  split <;> rfl

/-- What the dispatcher asks for fits the state of the transport. -/
def Guarded (finding : Bool) : Dispatch → Prop
  | .transmit message => finding = true → message.destination = broadcastAddress
  | .setParent _ distance => finding = true ∧ distance ≠ distanceInvalid
  | _ => True

section Dispatcher

variable {c : Transport} {payloadLength : Byte} {d : Dispatch}

theorem guarded_routeMessage (h : d ∈ c.routeMessage message) : Guarded c.findingParentNode d := by
  unfold Transport.routeMessage at h
  split at h
  · cases h
  · rename_i hfree
    obtain rfl := List.mem_singleton.mp h
    intro hfinding
    by_contra hdest
    exact hfree ⟨hfinding, hdest⟩

theorem guarded_sendRoute (h : d ∈ c.sendRoute message) : Guarded c.findingParentNode d := by
  unfold Transport.sendRoute at h
  split at h
  · exact guarded_routeMessage h
  · cases h

theorem guarded_findParentResponse (h : d ∈ c.findParentResponse message) :
    Guarded c.findingParentNode d := by
  unfold Transport.findParentResponse at h
  dsimp only at h
  split at h
  · rename_i hnear
    obtain rfl := List.mem_singleton.mp h
    exact ⟨hnear.1, hnear.2.2.1⟩
  · cases h

theorem guarded_processInternalMessages {ds : List Dispatch} {finding : Bool}
    (hds : Transport.processInternalMessages message = some ds) (h : d ∈ ds) : Guarded finding d := by
  unfold Transport.processInternalMessages at hds
  repeat' split at hds
  all_goals cases hds
  all_goals first
    | exact absurd h List.not_mem_nil
    | obtain rfl := List.mem_singleton.mp h
      trivial

theorem guarded_processInternal {ds : List Dispatch} (hds : c.processInternal message = some ds)
    (h : d ∈ ds) : Guarded c.findingParentNode d := by
  unfold Transport.processInternal at hds
  repeat' split at hds
  all_goals cases hds
  all_goals first
    | cases h; done
    | exact guarded_routeMessage h
    | exact guarded_findParentResponse h
    | exact guarded_processInternalMessages ‹_› h
    | obtain rfl := List.mem_singleton.mp h
      trivial

theorem guarded_processAddressed (h : d ∈ c.processAddressed message) :
    Guarded c.findingParentNode d := by
  unfold Transport.processAddressed at h
  rcases List.mem_append.mp h with h | h
  · unfold Transport.ackReply at h
    split at h
    · exact guarded_sendRoute h
    · cases h
  · have hreceive : ∀ e ∈ [Dispatch.receive message], Guarded c.findingParentNode e := by
      intro e he
      obtain rfl := List.mem_singleton.mp he
      trivial
    split at h
    · exact hreceive d h
    · split at h
      · cases hds : c.processInternal message with
        | none =>
          rw [hds] at h
          exact hreceive d h
        | some ds =>
          rw [hds] at h
          exact guarded_processInternal hds h
      · exact hreceive d h

theorem guarded_processBroadcast (h : d ∈ c.processBroadcast message) :
    Guarded c.findingParentNode d := by
  unfold Transport.processBroadcast at h
  repeat' split at h
  all_goals first
    | cases h; done
    | exact guarded_routeMessage h
    | obtain rfl := List.mem_singleton.mp h
      trivial

theorem guarded_processMessage (h : d ∈ c.processMessage payloadLength message) :
    Guarded c.findingParentNode d := by
  unfold Transport.processMessage at h
  repeat' split at h
  all_goals first
    | exact absurd h List.not_mem_nil
    | exact guarded_processAddressed h
    | exact guarded_processBroadcast h

end Dispatcher

/-! ### The invariant -/

/-- The flags agree with the state, and from the moment a parent has been chosen it is known. -/
structure Sound (s : TransportSM) : Prop where
  ready_iff : s.ready = true ↔ s.currentState = some .stReady
  active_iff : s.transportActive = true ↔
    s.currentState ∈ [some .stParent, some .stID, some .stUplink, some .stReady]
  finding : s.currentState = some .stParent → s.findingParentNode = true
  settled : s.currentState ∈ [some .stID, some .stUplink, some .stReady] →
    s.findingParentNode = false ∧ s.parentNodeId ≠ auto
  distance : s.transportActive = true → s.parentNodeId ≠ auto → s.distanceGW ≠ distanceInvalid
  retries : s.stateRetries ≤ maxStateRetries
  failures : s.failureCounter ≤ maxTsmFailures
  preferred : s.preferredParentFound = false

theorem Sound.transmit (h : s.Sound) (ok : MyMessage → Bool) (message : MyMessage) :
    (s.transmit ok message).1.Sound := by
  obtain ⟨n, hn⟩ := transmit_fst ok s message
  rw [hn]
  exact ⟨h.ready_iff, h.active_iff, h.finding, h.settled, h.distance, h.retries, h.failures, h.preferred⟩

theorem Sound.assignNodeID (h : s.Sound) (newNodeId : Byte) : (s.assignNodeID newNodeId).Sound := by
  unfold TransportSM.assignNodeID
  split
  all_goals
    exact ⟨h.ready_iff, h.active_iff, h.finding, h.settled, h.distance, h.retries, h.failures, h.preferred⟩

theorem Sound.perform (h : s.Sound) {d : Dispatch} (hd : Guarded s.findingParentNode d) :
    (s.perform ok d).1.Sound := by
  cases d with
  | transmit message => exact h.transmit ok message
  | assignNodeID newNodeId => exact h.assignNodeID newNodeId
  | setParent parent distance =>
    refine ⟨h.ready_iff, h.active_iff, h.finding, ?_, fun _ _ => hd.2, h.retries, h.failures, h.preferred⟩
    intro hstate
    -- a parent is only set while one is being looked for
    exact absurd hd.1 (by rw [(h.settled hstate).1]; decide)
  | pingResponse hops =>
    exact ⟨h.ready_iff, h.active_iff, h.finding, h.settled, h.distance, h.retries, h.failures, h.preferred⟩
  | _ => exact h

theorem perform_fst_finding (d : Dispatch) :
    (s.perform ok d).1.findingParentNode = s.findingParentNode ∧
      (s.perform ok d).1.currentState = s.currentState ∧
      (s.perform ok d).1.stateEnter = s.stateEnter ∧
      (s.perform ok d).1.transportActive = s.transportActive := by
  cases d with
  | transmit message =>
    obtain ⟨n, hn⟩ := transmit_fst ok s message
    rw [TransportSM.perform, hn]
    exact ⟨rfl, rfl, rfl, rfl⟩
  | assignNodeID newNodeId =>
    rw [TransportSM.perform, TransportSM.assignNodeID]
    split
    all_goals exact ⟨rfl, rfl, rfl, rfl⟩
  | _ => exact ⟨rfl, rfl, rfl, rfl⟩

theorem Sound.performAll {ds : List Dispatch} (h : s.Sound)
    (hds : ∀ d ∈ ds, Guarded s.findingParentNode d) : (s.performAll ok ds).1.Sound := by
  induction ds generalizing s with
  | nil => exact h
  | cons d ds ih =>
    refine ih (h.perform (hds d List.mem_cons_self)) ?_
    rw [(perform_fst_finding d).1]
    exact fun e he => hds e (List.mem_cons_of_mem _ he)

theorem perform_parent {d : Dispatch} (hd : Guarded s.findingParentNode d)
    (hfree : s.findingParentNode = false) : (s.perform ok d).1.parentNodeId = s.parentNodeId := by
  cases d with
  | transmit message =>
    obtain ⟨n, hn⟩ := transmit_fst ok s message
    rw [perform, hn]
  | assignNodeID newNodeId =>
    rw [perform, assignNodeID]
    split <;> rfl
  | setParent parent distance =>
    rw [hfree] at hd
    exact absurd hd.1 Bool.false_ne_true
  | _ => rfl

theorem performAll_parent {ds : List Dispatch} (hds : ∀ d ∈ ds, Guarded s.findingParentNode d)
    (hfree : s.findingParentNode = false) : (s.performAll ok ds).1.parentNodeId = s.parentNodeId := by
  induction ds generalizing s with
  | nil => rfl
  | cons d ds ih =>
    have hhead := hds d List.mem_cons_self
    have hsame := (@perform_fst_finding s ok d).1
    refine (ih ?_ (hsame.trans hfree)).trans (perform_parent hhead hfree)
    rw [hsame]
    exact fun e he => hds e (List.mem_cons_of_mem _ he)

/-- A message leaves for everybody, or for the parent, which is then known. -/
def Addressed (parentNodeId : Byte) : Output → Prop
  | .air route message =>
    if message.destination = broadcastAddress then route = broadcastAddress
    else route = parentNodeId ∧ route ≠ auto
  | .core _ => True

theorem addressed_air {parentNodeId : Byte} : Addressed parentNodeId (.air route message) ↔
    if message.destination = broadcastAddress then route = broadcastAddress
    else route = parentNodeId ∧ route ≠ auto := Iff.rfl

theorem addressed_perform {d : Dispatch} {o : Output} (hd : Guarded s.findingParentNode d)
    (hlinked : s.findingParentNode = false → s.parentNodeId ≠ auto) (ho : o ∈ (s.perform ok d).2) :
    Addressed s.parentNodeId o := by
  cases d with
  | transmit message =>
    obtain rfl := List.mem_singleton.mp ho
    rw [addressed_air]
    by_cases hdest : message.destination = broadcastAddress
    · rw [if_pos hdest, if_pos hdest]
    · rw [if_neg hdest, if_neg hdest]
      cases hfinding : s.findingParentNode with
      | true => exact absurd (hd hfinding) hdest
      | false => exact ⟨rfl, hlinked hfinding⟩
  | assignNodeID newNodeId => cases ho
  | setParent parent distance => cases ho
  | pingResponse hops => cases ho
  | _ =>
    obtain rfl := List.mem_singleton.mp ho
    trivial

theorem addressed_performAll {ds : List Dispatch} {o : Output}
    (hds : ∀ d ∈ ds, Guarded s.findingParentNode d)
    (hlinked : s.findingParentNode = false → s.parentNodeId ≠ auto)
    (ho : o ∈ (s.performAll ok ds).2) : Addressed (s.performAll ok ds).1.parentNodeId o := by
  induction ds generalizing s with
  | nil => cases ho
  | cons d ds ih =>
    have hhead := hds d List.mem_cons_self
    have hsame := (@perform_fst_finding s ok d).1
    have htail : ∀ e ∈ ds, Guarded (s.perform ok d).1.findingParentNode e := by
      rw [hsame]
      exact fun e he => hds e (List.mem_cons_of_mem _ he)
    rcases List.mem_append.mp ho with ho | ho
    · have haddressed := addressed_perform hhead hlinked ho
      cases hfinding : s.findingParentNode with
      | false =>
        have hparent : (s.performAll ok (d :: ds)).1.parentNodeId = s.parentNodeId :=
          performAll_parent hds hfinding
        rwa [hparent]
      | true =>
        -- only broadcasts leave while a parent is being looked for
        cases d with
        | transmit message =>
          have hdest := hhead hfinding
          obtain rfl := List.mem_singleton.mp ho
          rw [addressed_air, if_pos hdest, if_pos hdest]
        | assignNodeID newNodeId => cases ho
        | setParent parent distance => cases ho
        | pingResponse hops => cases ho
        | _ =>
          obtain rfl := List.mem_singleton.mp ho
          trivial
    · refine ih htail ?_ ho
      intro hfree
      rw [hsame] at hfree
      rw [perform_parent hhead hfree]
      exact hlinked hfree

/-! ### Switching -/

theorem mark_eq (s : TransportSM) (newState : TransportState) :
    ∃ n, s.mark newState = { s with stateRetries := n, currentState := some newState } ∧
      (n = 0 ∨ s.currentState = some newState ∧ n = (s.stateRetries + 1) % 2 ^ 3) := by
  unfold mark
  split
  · rename_i hsame
    refine ⟨_, ?_, .inr ⟨hsame, rfl⟩⟩
    rw [← hsame]
  · exact ⟨0, rfl, .inl rfl⟩

theorem switchSM_stInit (s : TransportSM) : ∃ n, (n = 0 ∨ s.currentState = some .stInit ∧
    n = (s.stateRetries + 1) % 2 ^ 3) ∧ (s.switchSM ok now entered .stInit).1 =
      { s with
        pingActive := false, transportActive := false, lastUplinkCheck := 0
        nodeId := s.stored.nodeId, parentNodeId := s.stored.parentNodeId
        distanceGW := s.stored.distanceGW, stateRetries := n, currentState := some .stInit
        stateEnter := hwMillis entered } := by
  obtain ⟨n, hmark, hn⟩ := mark_eq s .stInit
  refine ⟨n, hn, ?_⟩
  simp only [switchSM, transition, stInitTransition, hmark]

theorem switchSM_stParent (s : TransportSM) : ∃ n k, (n = 0 ∨ s.currentState = some .stParent ∧
    n = (s.stateRetries + 1) % 2 ^ 3) ∧ (s.switchSM ok now entered .stParent).1 =
      { s with
        ready := false, preferredParentFound := false, findingParentNode := true
        distanceGW := distanceInvalid, parentNodeId := auto, stateRetries := n
        currentState := some .stParent, stateEnter := hwMillis entered
        failedUplinkTransmissions := k } := by
  obtain ⟨n, hmark, hn⟩ := mark_eq s .stParent
  obtain ⟨k, hk⟩ := route_fst ok
    { s with
      ready := false, preferredParentFound := false, findingParentNode := true
      distanceGW := distanceInvalid, parentNodeId := auto, stateRetries := n
      currentState := some .stParent }
    ((s.buildInternal broadcastAddress iFindParentRequest).setString [])
  refine ⟨n, k, hn, ?_⟩
  simp only [switchSM, transition, stParentTransition, hmark]
  exact congrArg (fun r : TransportSM => { r with stateEnter := hwMillis entered }) hk

theorem switchSM_stID (s : TransportSM) : ∃ n k token, (n = 0 ∨ s.currentState = some .stID ∧
    n = (s.stateRetries + 1) % 2 ^ 3) ∧ (s.switchSM ok now entered .stID).1 =
      { s with
        token := token, stateRetries := n, currentState := some .stID
        stateEnter := hwMillis entered, failedUplinkTransmissions := k } := by
  obtain ⟨n, hmark, hn⟩ := mark_eq s .stID
  by_cases hid : s.nodeId = auto
  · obtain ⟨k, hk⟩ := route_fst ok
      { s with token := tokenOf now, stateRetries := n, currentState := some .stID }
      ((build (.registered s.nodeId) gatewayAddress (tokenOf now) cInternal iIdRequest).setString [])
    refine ⟨n, k, tokenOf now, hn, ?_⟩
    simp only [switchSM, transition, stIDTransition, hmark, hid, if_true]
    rw [← hid]
    exact congrArg (fun r : TransportSM => { r with stateEnter := hwMillis entered }) hk
  · refine ⟨n, s.failedUplinkTransmissions, s.token, hn, ?_⟩
    simp only [switchSM, transition, stIDTransition, hmark, hid, if_false]

theorem switchSM_stUplink (s : TransportSM) : ∃ n k, (n = 0 ∨ s.currentState = some .stUplink ∧
    n = (s.stateRetries + 1) % 2 ^ 3) ∧ (s.switchSM ok now entered .stUplink).1 =
      { s with
        pingResponse := invalidHops, pingActive := true, stateRetries := n
        currentState := some .stUplink, stateEnter := hwMillis entered
        failedUplinkTransmissions := k } := by
  obtain ⟨n, hmark, hn⟩ := mark_eq s .stUplink
  obtain ⟨k, hk⟩ := route_fst ok
    { s with
      pingResponse := invalidHops, pingActive := true, stateRetries := n
      currentState := some .stUplink }
    ((s.buildInternal gatewayAddress iPing).setByte 1#8)
  refine ⟨n, k, hn, ?_⟩
  simp only [switchSM, transition, stUplinkTransition, hmark]
  exact congrArg (fun r : TransportSM => { r with stateEnter := hwMillis entered }) hk

theorem switchSM_stReady (s : TransportSM) : ∃ n, (n = 0 ∨ s.currentState = some .stReady ∧
    n = (s.stateRetries + 1) % 2 ^ 3) ∧ (s.switchSM ok now entered .stReady).1 =
      { s with
        ready := true, failureCounter := 0, failedUplinkTransmissions := 0
        presenting := if s.presentationSent then s.presenting else s.presenting + 1
        stateRetries := n, currentState := some .stReady, stateEnter := hwMillis entered } := by
  obtain ⟨n, hmark, hn⟩ := mark_eq s .stReady
  refine ⟨n, hn, ?_⟩
  simp only [switchSM, transition, stReadyTransition, hmark]

theorem switchSM_stFailure (s : TransportSM) : ∃ n, (n = 0 ∨ s.currentState = some .stFailure ∧
    n = (s.stateRetries + 1) % 2 ^ 3) ∧ (s.switchSM ok now entered .stFailure).1 =
      { s with
        failureCounter := if s.failureCounter < maxTsmFailures then s.failureCounter + 1
          else s.failureCounter
        ready := false, transportActive := false, stateRetries := n
        currentState := some .stFailure, stateEnter := hwMillis entered } := by
  obtain ⟨n, hmark, hn⟩ := mark_eq s .stFailure
  refine ⟨n, hn, ?_⟩
  simp only [switchSM, transition, stFailureTransition, hmark]

/-- The moves of the state machine: the state before, what the update has prepared, and the state
that is entered. -/
inductive Move (radio : Bool) (now : ℕ) (s : TransportSM) : TransportSM → TransportState → Prop
  | initFailed : s.currentState = some .stInit → radio = false → Move radio now s s .stFailure
  | initInvalid : s.currentState = some .stInit → s.nodeId ≠ auto → ¬ validId s.nodeId →
      Move radio now s { s with transportActive := true, nodeId := auto } .stFailure
  | initDone (stored : StoredConfig) : s.currentState = some .stInit →
      (s.nodeId = auto ∧ stored = s.stored ∨ validId s.nodeId ∧ stored = { s.stored with nodeId := s.nodeId }) →
      Move radio now s { s with transportActive := true, stored := stored } .stParent
  | parentFound : s.currentState = some .stParent → stateTimeoutMs < s.timeInState now →
      s.parentNodeId ≠ auto → Move radio now s { s with findingParentNode := false } .stID
  | parentAgain : s.currentState = some .stParent → stateTimeoutMs < s.timeInState now →
      s.parentNodeId = auto → s.stateRetries < maxStateRetries → Move radio now s s .stParent
  | parentFailed : s.currentState = some .stParent → stateTimeoutMs < s.timeInState now →
      s.parentNodeId = auto → Move radio now s s .stFailure
  | idKnown : s.currentState = some .stID → s.nodeId ≠ auto → Move radio now s s .stUplink
  | idAgain : s.currentState = some .stID → stateTimeoutMs < s.timeInState now →
      s.nodeId = auto → s.stateRetries < maxStateRetries → Move radio now s s .stID
  | idFailed : s.currentState = some .stID → stateTimeoutMs < s.timeInState now →
      s.nodeId = auto → Move radio now s s .stFailure
  | uplinkChecked (distance : Byte) : s.currentState = some .stUplink → distance ≠ distanceInvalid →
      Move radio now s { s with lastUplinkCheck := hwMillis now, distanceGW := distance } .stReady
  | uplinkAgain : s.currentState = some .stUplink → stateTimeoutMs < s.timeInState now →
      s.pingResponse = invalidHops → s.stateRetries < maxStateRetries → Move radio now s s .stUplink
  | uplinkFailed : s.currentState = some .stUplink → stateTimeoutMs < s.timeInState now →
      s.pingResponse = invalidHops → Move radio now s { s with pingActive := false } .stParent
  | readyLost : s.currentState = some .stReady → maxTxFailures < s.failedUplinkTransmissions →
      Move radio now s s .stParent
  | failureOver : s.currentState = some .stFailure → s.failureTimeout < s.timeInState now →
      Move radio now s s .stInit

theorem move_stInitUpdate (hs : s.currentState = some .stInit) :
    Move radio now s (s.stInitUpdate radio).1 (s.stInitUpdate radio).2 := by
  unfold stInitUpdate
  split
  · rename_i hradio
    exact .initFailed hs (by simpa using hradio)
  · dsimp only
    split
    · rename_i hauto
      exact .initDone s.stored hs (.inl ⟨hauto, rfl⟩)
    · rename_i hauto
      unfold assignNodeID
      split
      · rename_i hvalid
        exact .initDone _ hs (.inr ⟨hvalid, rfl⟩)
      · rename_i hvalid
        exact .initInvalid hs hauto hvalid

theorem move_of_next {p : TransportSM} (hpreferred : s.preferredParentFound = false)
    (h : s.next radio now = some (p, newState)) : Move radio now s p newState := by
  unfold next at h
  split at h
  · cases h
  · rename_i hs
    have hmove := @move_stInitUpdate s radio now hs
    rwa [Option.some.inj h] at hmove
  · rename_i hs
    unfold stParentUpdate at h
    split at h
    · rename_i htime
      have htime : stateTimeoutMs < s.timeInState now :=
        htime.resolve_right (by rw [hpreferred]; exact Bool.false_ne_true)
      split at h
      · rename_i hparent
        cases h
        exact .parentFound hs htime hparent
      · rename_i hparent
        rw [not_not] at hparent
        split at h
        · rename_i hretries
          cases h
          exact .parentAgain hs htime hparent hretries
        · cases h
          exact .parentFailed hs htime hparent
    · cases h
  · rename_i hs
    unfold stIDUpdate at h
    split at h
    · rename_i hid
      cases h
      exact .idKnown hs hid
    · rename_i hid
      rw [not_not] at hid
      split at h
      · rename_i htime
        split at h
        · rename_i hretries
          cases h
          exact .idAgain hs htime hid hretries
        · cases h
          exact .idFailed hs htime hid
      · cases h
  · rename_i hs
    unfold stUplinkUpdate at h
    split at h
    · rename_i hping
      cases h
      refine .uplinkChecked _ hs ?_
      split
      · exact hping
      · rename_i hsame
        rw [not_not] at hsame
        exact hsame ▸ hping
    · rename_i hping
      rw [not_not] at hping
      split at h
      · rename_i htime
        split at h
        · rename_i hretries
          cases h
          exact .uplinkAgain hs htime hping hretries
        · cases h
          exact .uplinkFailed hs htime hping
      · cases h
  · rename_i hs
    unfold stReadyUpdate at h
    split at h
    · rename_i hfailed
      cases h
      exact .readyLost hs hfailed
    · cases h
  · rename_i hs
    unfold stFailureUpdate at h
    split at h
    · rename_i htime
      cases h
      exact .failureOver hs htime
    · cases h

/-! ### Every move keeps the invariant -/

section Enter

variable {p : TransportSM}

theorem sound_enterInit (hstate : p.currentState ≠ some .stInit) (hready : p.ready = false)
    (hfailures : p.failureCounter ≤ maxTsmFailures) (hpreferred : p.preferredParentFound = false) :
    (p.switchSM ok now entered .stInit).1.Sound := by
  obtain ⟨n, hn, hto⟩ := @switchSM_stInit ok now entered p
  rw [hto]
  refine ⟨by simp [hready], by simp, by simp, by simp, by simp, ?_, hfailures, hpreferred⟩
  rw [hn.resolve_right fun h => hstate h.1]
  exact Nat.zero_le _

theorem sound_enterParent (hactive : p.transportActive = true)
    (hfailures : p.failureCounter ≤ maxTsmFailures)
    (hretries : p.currentState = some .stParent → p.stateRetries < maxStateRetries) :
    (p.switchSM ok now entered .stParent).1.Sound := by
  obtain ⟨n, k, hn, hto⟩ := @switchSM_stParent ok now entered p
  rw [hto]
  refine ⟨by simp, by simp [hactive], fun _ => rfl, by simp, fun _ hparent => absurd rfl hparent, ?_,
    hfailures, rfl⟩
  rcases hn with rfl | ⟨hs, rfl⟩
  · exact Nat.zero_le _
  · exact (Nat.mod_le _ _).trans (hretries hs)

/-- A parent has been chosen, and the node may look for its id and the gateway. -/
structure Attached (p : TransportSM) : Prop where
  active : p.transportActive = true
  parent : p.findingParentNode = false ∧ p.parentNodeId ≠ auto
  distance : p.distanceGW ≠ distanceInvalid
  failures : p.failureCounter ≤ maxTsmFailures
  preferred : p.preferredParentFound = false

theorem Attached.enterID (h : p.Attached) (hready : p.ready = false)
    (hretries : p.currentState = some .stID → p.stateRetries < maxStateRetries) :
    (p.switchSM ok now entered .stID).1.Sound := by
  obtain ⟨n, k, token, hn, hto⟩ := @switchSM_stID ok now entered p
  rw [hto]
  refine ⟨by simp [hready], by simp [h.active], by simp, fun _ => h.parent, fun _ _ => h.distance, ?_,
    h.failures, h.preferred⟩
  rcases hn with rfl | ⟨hs, rfl⟩
  · exact Nat.zero_le _
  · exact (Nat.mod_le _ _).trans (hretries hs)

theorem Attached.enterUplink (h : p.Attached) (hready : p.ready = false)
    (hretries : p.currentState = some .stUplink → p.stateRetries < maxStateRetries) :
    (p.switchSM ok now entered .stUplink).1.Sound := by
  obtain ⟨n, k, hn, hto⟩ := @switchSM_stUplink ok now entered p
  rw [hto]
  refine ⟨by simp [hready], by simp [h.active], by simp, fun _ => h.parent, fun _ _ => h.distance, ?_,
    h.failures, h.preferred⟩
  rcases hn with rfl | ⟨hs, rfl⟩
  · exact Nat.zero_le _
  · exact (Nat.mod_le _ _).trans (hretries hs)

theorem Attached.enterReady (h : p.Attached) (hstate : p.currentState ≠ some .stReady) :
    (p.switchSM ok now entered .stReady).1.Sound := by
  obtain ⟨n, hn, hto⟩ := @switchSM_stReady ok now entered p
  rw [hto]
  refine ⟨by simp, by simp [h.active], by simp, fun _ => h.parent, fun _ _ => h.distance, ?_,
    Nat.zero_le _, h.preferred⟩
  rw [hn.resolve_right fun h => hstate h.1]
  exact Nat.zero_le _

theorem sound_enterFailure (hstate : p.currentState ≠ some .stFailure)
    (hfailures : p.failureCounter ≤ maxTsmFailures) (hpreferred : p.preferredParentFound = false) :
    (p.switchSM ok now entered .stFailure).1.Sound := by
  obtain ⟨n, hn, hto⟩ := @switchSM_stFailure ok now entered p
  rw [hto]
  refine ⟨by simp, by simp, by simp, by simp, by simp, ?_, ?_, hpreferred⟩
  · rw [hn.resolve_right fun h => hstate h.1]
    exact Nat.zero_le _
  · dsimp only
    split <;> omega

end Enter

theorem Sound.notReady (h : s.Sound) (hstate : s.currentState ≠ some .stReady) : s.ready = false := by
  rw [← Bool.not_eq_true, h.ready_iff]
  exact hstate

theorem Sound.attached (h : s.Sound)
    (hstate : s.currentState ∈ [some .stID, some .stUplink, some .stReady]) : s.Attached := by
  have hactive : s.transportActive = true := h.active_iff.mpr (List.mem_cons_of_mem _ hstate)
  exact ⟨hactive, h.settled hstate, h.distance hactive (h.settled hstate).2, h.failures, h.preferred⟩

theorem Sound.move {p : TransportSM} (h : s.Sound) (hmove : Move radio now s p newState) :
    (p.switchSM ok now entered newState).1.Sound := by
  cases hmove with
  | initFailed hs => exact sound_enterFailure (by rw [hs]; decide) h.failures h.preferred
  | initInvalid hs => exact sound_enterFailure (by simp [hs]) h.failures h.preferred
  | initDone stored hs => exact sound_enterParent rfl h.failures (by simp [hs])
  | parentFound hs _ hparent =>
    have hactive : s.transportActive = true := h.active_iff.mpr (by simp [hs])
    have hattached : Attached { s with findingParentNode := false } :=
      ⟨hactive, ⟨rfl, hparent⟩, h.distance hactive hparent, h.failures, h.preferred⟩
    exact hattached.enterID (h.notReady (by simp [hs])) (by simp [hs])
  | parentAgain hs _ _ hretries =>
    exact sound_enterParent (h.active_iff.mpr (by simp [hs])) h.failures fun _ => hretries
  | parentFailed hs => exact sound_enterFailure (by simp [hs]) h.failures h.preferred
  | idKnown hs => exact (h.attached (by simp [hs])).enterUplink (h.notReady (by simp [hs])) (by simp [hs])
  | idAgain hs _ _ hretries =>
    exact (h.attached (by simp [hs])).enterID (h.notReady (by simp [hs])) fun _ => hretries
  | idFailed hs => exact sound_enterFailure (by simp [hs]) h.failures h.preferred
  | uplinkChecked distance hs hdistance =>
    have hattached := h.attached (by simp [hs])
    have hchecked : Attached { s with lastUplinkCheck := hwMillis now, distanceGW := distance } :=
      ⟨hattached.active, hattached.parent, hdistance, h.failures, h.preferred⟩
    exact hchecked.enterReady (by simp [hs])
  | uplinkAgain hs _ _ hretries =>
    exact (h.attached (by simp [hs])).enterUplink (h.notReady (by simp [hs])) fun _ => hretries
  | uplinkFailed hs => exact sound_enterParent (h.attached (by simp [hs])).active h.failures (by simp [hs])
  | readyLost hs => exact sound_enterParent (h.attached (by simp [hs])).active h.failures (by simp [hs])
  | failureOver hs =>
    exact sound_enterInit (by simp [hs]) (h.notReady (by simp [hs])) h.failures h.preferred

theorem Sound.updateSM (h : s.Sound) (ok : MyMessage → Bool) (radio : Bool) (now entered : ℕ) :
    (s.updateSM ok radio now entered).1.Sound := by
  unfold TransportSM.updateSM
  split
  · exact h
  · rename_i hnext
    exact h.move (move_of_next h.preferred hnext)

theorem Sound.step (h : s.Sound) (e : TransportEvent) : (s.step e).1.Sound := by
  cases e with
  | update ok radio now entered => exact h.updateSM ok radio now entered
  | message ok payloadLength message =>
    dsimp only [TransportSM.step]
    split
    · exact h.performAll fun d hd => guarded_processMessage hd
    · exact h
  | send ok message => exact h.performAll fun d hd => guarded_sendRoute hd
  | presented now =>
    dsimp only [TransportSM.step]
    split
    · exact ⟨h.ready_iff, h.active_iff, h.finding, h.settled, h.distance, h.retries, h.failures, h.preferred⟩
    · exact h

theorem Sound.run (h : s.Sound) (es : List TransportEvent) : (s.run es).1.Sound := by
  induction es generalizing s with
  | nil => exact h
  | cons e es ih => exact ih (h.step e)

theorem sound_powerUp (stored : StoredConfig) (now : ℕ) : (powerUp stored now).Sound :=
  sound_enterInit (by simp) rfl (Nat.zero_le _) rfl

/-! ### Where the messages go -/

theorem addressed_route {o : Output} (ho : o ∈ (s.route ok message).2)
    (h : message.destination = broadcastAddress ∨ s.findingParentNode = false ∧ s.parentNodeId ≠ auto) :
    Addressed s.parentNodeId o := by
  rw [route_snd] at ho
  split at ho
  · cases ho
  · obtain rfl := List.mem_singleton.mp ho
    rw [addressed_air]
    by_cases hdest : message.destination = broadcastAddress
    · rw [if_pos hdest, if_pos hdest]
    · rw [if_neg hdest, if_neg hdest]
      exact ⟨rfl, (h.resolve_left hdest).2⟩

theorem addressed_switchSM {p : TransportSM} {o : Output}
    (hparent : newState = .stID ∨ newState = .stUplink →
      p.findingParentNode = false ∧ p.parentNodeId ≠ auto)
    (ho : o ∈ (p.switchSM ok now entered newState).2) :
    Addressed (p.switchSM ok now entered newState).1.parentNodeId o := by
  cases newState with
  | stInit => cases ho
  | stReady => cases ho
  | stFailure => cases ho
  | stParent =>
    obtain ⟨n, k, -, hto⟩ := @switchSM_stParent ok now entered p
    obtain ⟨r, hmark, -⟩ := mark_eq p .stParent
    dsimp only [switchSM, transition, stParentTransition] at ho
    rw [hmark] at ho
    have haddressed := addressed_route ho (.inl rfl)
    rw [hto]
    exact haddressed
  | stID =>
    obtain ⟨n, k, token, -, hto⟩ := @switchSM_stID ok now entered p
    obtain ⟨r, hmark, -⟩ := mark_eq p .stID
    dsimp only [switchSM, transition, stIDTransition] at ho
    rw [hmark] at ho
    split at ho
    · have haddressed := addressed_route ho (.inr (hparent (.inl rfl)))
      rw [hto]
      exact haddressed
    · cases ho
  | stUplink =>
    obtain ⟨n, k, -, hto⟩ := @switchSM_stUplink ok now entered p
    obtain ⟨r, hmark, -⟩ := mark_eq p .stUplink
    dsimp only [switchSM, transition, stUplinkTransition] at ho
    rw [hmark] at ho
    have haddressed := addressed_route ho (.inr (hparent (.inr rfl)))
    rw [hto]
    exact haddressed

theorem Sound.addressed (h : s.Sound) {e : TransportEvent} {o : Output} (ho : o ∈ (s.step e).2) :
    Addressed (s.step e).1.parentNodeId o := by
  cases e with
  | update ok radio now entered =>
    dsimp only [TransportSM.step, TransportSM.updateSM] at ho ⊢
    split at ho
    · cases ho
    · rename_i p newState hnext
      refine addressed_switchSM ?_ ho
      intro hstate
      cases move_of_next h.preferred hnext with
      | parentFound hs _ hparent => exact ⟨rfl, hparent⟩
      | idKnown hs => exact h.settled (by simp [hs])
      | idAgain hs => exact h.settled (by simp [hs])
      | uplinkAgain hs => exact h.settled (by simp [hs])
      | _ => simp at hstate
  | message ok payloadLength message =>
    dsimp only [TransportSM.step] at ho ⊢
    split at ho
    · rename_i hactive
      rw [if_pos hactive]
      refine addressed_performAll (fun d hd => guarded_processMessage hd) ?_ ho
      intro hfree
      have hstate := h.active_iff.mp hactive
      rcases List.mem_cons.mp hstate with hstate | hstate
      · rw [h.finding hstate] at hfree
        cases hfree
      · exact (h.settled hstate).2
    · cases ho
  | send ok message =>
    have hready : s.ready = true := by
      by_contra hready
      dsimp only [TransportSM.step, Transport.sendRoute] at ho
      rw [if_neg hready] at ho
      cases ho
    refine addressed_performAll (fun d hd => guarded_sendRoute hd) ?_ ho
    intro _
    exact (h.settled (by simp [h.ready_iff.mp hready])).2
  | presented now =>
    dsimp only [TransportSM.step] at ho
    split at ho <;> cases ho

/-- A message of the sketch leaves exactly while the transport is in its last state. -/
theorem Sound.send (h : s.Sound) (ok : MyMessage → Bool) (message : MyMessage) :
    (s.step (.send ok message)).2 = if s.currentState = some .stReady then
      [.air (if message.destination = broadcastAddress then broadcastAddress else s.parentNodeId)
        { message with last := s.nodeId }] else [] := by
  dsimp only [TransportSM.step, Transport.sendRoute]
  by_cases hready : s.ready = true
  · have hstate := h.ready_iff.mp hready
    have hfree : s.findingParentNode = false := (h.settled (by simp [hstate])).1
    rw [if_pos hready, if_pos hstate]
    refine (@route_snd s ok message).trans ?_
    rw [hfree, if_neg (fun h => Bool.false_ne_true h.1)]
  · have hstate : ¬ s.currentState = some .stReady := fun hstate => hready (h.ready_iff.mpr hstate)
    rw [if_neg hready, if_neg hstate]
    rfl

variable {stored : StoredConfig} {start : ℕ}

/-- Whatever the node hears, and whatever its radio does: its flags and counters fit its state and
it has a parent from the moment it looks for its id; what it sends to somebody goes to its parent;
and the messages of the sketch leave while it is ready, and only then. -/
theorem run_linked (stored : StoredConfig) (start : ℕ) (es : List TransportEvent) :
    ((powerUp stored start).run es).1.Sound ∧
      (∀ e route message, .air route message ∈ (((powerUp stored start).run es).1.step e).2 →
        if message.destination = broadcastAddress then route = broadcastAddress
        else route = (((powerUp stored start).run es).1.step e).1.parentNodeId ∧ route ≠ auto) ∧
      ∀ ok message, (((powerUp stored start).run es).1.step (.send ok message)).2 =
        if ((powerUp stored start).run es).1.currentState = some .stReady then
          [.air (if message.destination = broadcastAddress then broadcastAddress
              else ((powerUp stored start).run es).1.parentNodeId)
            { message with last := ((powerUp stored start).run es).1.nodeId }] else [] := by
  have h := (sound_powerUp stored start).run es
  exact ⟨h, fun e route message ho => h.addressed ho, h.send⟩

end TransportSM

end MySensors
