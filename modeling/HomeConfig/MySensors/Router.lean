import HomeConfig.MySensors.Transport

/-! The transport of the nodes that pass messages on: a gateway or a repeater learns from each message
where its sender is, and a network of such nodes in which the messages go from hop to hop. -/
namespace MySensors

open Arduino

def maxHops : Byte := 254#8

/-- MAX_MESSAGE_LENGTH. -/
def maxMessageLength : ℕ := 32

inductive Role where
  | gateway
  | repeater
  | sensor
deriving DecidableEq, Repr

/-- What routing reads of a node: its transport and its routing table. -/
structure Router where
  role : Role
  nodeId : Byte
  parentNodeId : Byte
  ready : Bool
  findingParentNode : Bool
  routes : Byte → Byte

/-- What becomes of a message that has come in. -/
inductive Received where
  | addressed (message : MyMessage)
  | broadcast (message : MyMessage)
  | relay (route : Byte) (message : MyMessage)
  | dropped

/-- What `transportSendWrite` hands to the radio. -/
def onAirLength (message : MyMessage) : ℕ :=
  min maxMessageLength
    (headerSize + if message.getSigned then maxPayload else message.getLength.toNat)

/-- A ping or a pong counts its hops. -/
def countHop (message : MyMessage) : MyMessage :=
  if message.getCommand = cInternal ∧ (message.type = iPing ∨ message.type = iPong) ∧
      message.getByte ≠ maxHops then
    message.setByte (message.getByte + 1)
  else message

namespace Router

def transportGetRoute (r : Router) (node : Byte) : Byte := r.routes node

def transportSetRoute (r : Router) (node route : Byte) : Router :=
  { r with routes := Function.update r.routes node route }

/-- The route that `transportRouteMessage` chooses. -/
def routeOf (r : Router) (message : MyMessage) : Byte :=
  if message.destination = gatewayAddress then r.parentNodeId
  else if message.destination = broadcastAddress then broadcastAddress
  else
    let route := r.transportGetRoute message.destination
    match r.role with
    | .sensor => r.parentNodeId
    | .repeater =>
      if route = auto then
        if message.last ≠ r.parentNodeId then r.parentNodeId else message.destination
      else route
    | .gateway => if route = auto then message.destination else route

def routeMessage (r : Router) (message : MyMessage) : Option (Byte × MyMessage) :=
  if r.findingParentNode ∧ message.destination ≠ broadcastAddress then none
  else some (r.routeOf message, { message with last := r.nodeId })

/-- The sender of a message that does not come from the parent is reached through its last hop. -/
def learn (r : Router) (message : MyMessage) : Router :=
  match r.role with
  | .sensor => r
  | .repeater =>
    if message.last ≠ r.parentNodeId ∧ message.sender ≠ r.nodeId then
      r.transportSetRoute message.sender message.last
    else r
  | .gateway =>
    if message.sender ≠ r.nodeId then r.transportSetRoute message.sender message.last else r

/-- `transportProcessMessage` up to where the message is handled, passed on or dropped. -/
def processMessage (r : Router) (payloadLength : ℕ) (message : MyMessage) : Router × Received :=
  if payloadLength ≠ Transport.expectedMessageLength message then (r, .dropped)
  else if message.getVersion ≠ protocolVersion then (r, .dropped)
  else
    let r := r.learn message
    if message.destination = r.nodeId then (r, .addressed message)
    else if message.destination = broadcastAddress then (r, .broadcast message)
    else if r.role ≠ .sensor ∧ r.ready then
      match r.routeMessage (countHop message) with
      | some (route, message) => (r, .relay route message)
      | none => (r, .dropped)
    else (r, .dropped)

end Router

/-! ### The network -/

/-- Who is there and who is whose parent: the parents are nearer to the gateway, and they pass
messages on. Each node hears its parent and its children. -/
structure Layout where
  role : Byte → Option Role
  parentNodeId : Byte → Byte
  distanceGW : Byte → ℕ
  gateway_iff : ∀ n, role n = some .gateway ↔ n = gatewayAddress
  broadcast_free : role broadcastAddress = none
  parent_gateway : parentNodeId gatewayAddress = gatewayAddress
  parent_passes : ∀ n, role n ≠ none → role (parentNodeId n) = some .gateway ∨
    role (parentNodeId n) = some .repeater
  distance_parent : ∀ n, n ≠ gatewayAddress → distanceGW (parentNodeId n) < distanceGW n

/-- A message on the air; no node reads its number and its hops. -/
structure Flight where
  serial : ℕ
  route : Byte
  message : MyMessage
  hops : ℕ

/-- A message that a node has taken as addressed to it. -/
structure Delivery where
  serial : ℕ
  node : Byte
  message : MyMessage
  hops : ℕ

/-- The routing tables, the air, and what has been sent, delivered and lost so far. -/
structure Mesh where
  routes : Byte → Byte → Byte
  air : List Flight
  sent : List MyMessage
  delivered : List Delivery
  lost : List ℕ

inductive MeshEvent where
  | originate (n : Byte) (message : MyMessage)
  | arrive (i : ℕ)
  | lose (i : ℕ)
deriving DecidableEq, Repr

namespace Mesh

/-- The tables after `transportClearRoutingTable`. -/
def cleared : Mesh := ⟨fun _ _ => broadcastAddress, [], [], [], []⟩

/-- A node that is ready and does not look for a parent. -/
def node (net : Layout) (s : Mesh) (n : Byte) : Option Router :=
  (net.role n).map fun role => ⟨role, n, net.parentNodeId n, true, false, s.routes n⟩

def Hears (net : Layout) (a b : Byte) : Prop :=
  a ≠ gatewayAddress ∧ net.parentNodeId a = b ∨ b ≠ gatewayAddress ∧ net.parentNodeId b = a

instance (net : Layout) (a b : Byte) : Decidable (Hears net a b) :=
  inferInstanceAs (Decidable (_ ∨ _))

/-- A message from node `n` for one other node. There are no broadcasts in this network: a request to
all nodes comes back to its sender, which then has an entry about somebody above it. -/
def Proper (n : Byte) (message : MyMessage) : Prop :=
  message.sender = n ∧ message.destination ≠ n ∧ message.destination ≠ broadcastAddress ∧
    message.getVersion = protocolVersion

instance (n : Byte) (message : MyMessage) : Decidable (Proper n message) :=
  inferInstanceAs (Decidable (_ ∧ _))

/-- What comes in at a node, and what goes on from there. -/
def arrived (s : Mesh) (i : ℕ) (f : Flight) (done : Router × Received) : Mesh :=
  let s := { s with
    routes := Function.update s.routes f.route done.1.routes
    air := s.air.eraseIdx i }
  match done.2 with
  | .addressed message => { s with delivered := s.delivered ++ [⟨f.serial, f.route, message, f.hops⟩] }
  | .relay route message => { s with air := s.air ++ [⟨f.serial, route, message, f.hops + 1⟩] }
  | .broadcast _ => { s with lost := s.lost ++ [f.serial] }
  | .dropped => { s with lost := s.lost ++ [f.serial] }

def step (net : Layout) (s : Mesh) : MeshEvent → Option Mesh
  | .originate n message =>
    if Proper n message then
      (s.node net n).bind fun r => (r.routeMessage message).map fun (route, message') =>
        { s with
          air := s.air ++ [⟨s.sent.length, route, message', 0⟩]
          sent := s.sent ++ [message] }
    else none
  | .arrive i =>
    s.air[i]?.bind fun f =>
      if Hears net f.message.last f.route then
        (s.node net f.route).map fun r =>
          s.arrived i f (r.processMessage (onAirLength f.message) f.message)
      else none
  | .lose i => s.air[i]?.map fun f => { s with air := s.air.eraseIdx i, lost := s.lost ++ [f.serial] }

end Mesh

end MySensors
