import HomeConfig.Library.Machine
import HomeConfig.MySensors.Core

/-! A node and its controller, joined by a FIFO channel in each direction. -/
namespace MySensors

open Arduino

variable {σ ι κ δ : Type}

/-- A child sensor and the type of one of its variables. -/
abbrev Item := Byte × Byte

def itemOf (m : MyMessage) : Item := (m.sensor, m.type)

/-- The C_SET that the gateway builds from a controller's text. -/
def setMessage (nodeId : Byte) (item : Item) (text : List Byte) : MyMessage :=
  let message := { MyMessage.clear with destination := nodeId, sensor := item.1, type := item.2 }
  ((message.setCommand cSet).setAck false).setString text

/-- A controller remembers one text for each item. -/
structure Controller where
  value : Item → List Byte

namespace Controller

def store (c : Controller) (item : Item) (text : List Byte) : Controller :=
  ⟨Function.update c.value item text⟩

/-- A C_SET overwrites the remembered value; a C_REQ is answered with it. -/
def handle (c : Controller) (m : MyMessage) : Controller × List MyMessage :=
  if m.getCommand = cSet then (c.store (itemOf m) m.getString, [])
  else if m.getCommand = cReq then (c, [setMessage m.sender (itemOf m) (c.value (itemOf m))])
  else (c, [])

@[simp] theorem value_store_self (c : Controller) (item : Item) (text : List Byte) :
    (c.store item text).value item = text := Function.update_self ..

theorem value_store_of_ne (c : Controller) {item other : Item} (text : List Byte)
    (h : other ≠ item) : (c.store item text).value other = c.value other :=
  Function.update_of_ne h ..

theorem handle_set {c : Controller} {m : MyMessage} (h : m.getCommand = cSet) :
    c.handle m = (c.store (itemOf m) m.getString, []) := by
  simp [handle, h]

theorem handle_req {c : Controller} {m : MyMessage} (h : m.getCommand = cReq) :
    c.handle m = (c, [setMessage m.sender (itemOf m) (c.value (itemOf m))]) := by
  simp [handle, h, cSet_ne_cReq.symm]

end Controller

/-- Why the controller sent a message. The message itself does not show it. -/
inductive Origin where
  | reply
  | command
deriving DecidableEq, Repr

/-- A sketch, the address of its node, and the commands a user can issue for it. -/
structure Deployment (σ ι κ δ : Type) where
  nodeId : Byte
  loop : σ → ι → σ × List (Effect δ)
  receive : σ → MyMessage → σ × List (Effect δ)
  command : κ → Item × List Byte

/-- The global state, with the log of the node's actions and the origins of the
messages delivered to it so far. -/
structure Network (σ δ : Type) where
  node : σ
  controller : Controller
  uplink : List MyMessage := []
  downlink : List (Origin × MyMessage) := []
  log : List δ := []
  delivered : List Origin := []
  iterations : ℕ := 0

/-- One atomic action: the node runs its loop up to the next wait, the controller
takes the oldest uplink message, the node receives the oldest downlink message, or
the user issues a command. -/
inductive Event (ι κ : Type) where
  | loop (input : ι)
  | answer
  | deliver
  | user (command : κ)
deriving DecidableEq, Repr

namespace Network

variable {d : Deployment σ ι κ δ} {w w' : Network σ δ}

/-- The node changes its state, acts and sends. -/
def perform (w : Network σ δ) (r : σ × List (Effect δ)) : Network σ δ :=
  { w with node := r.1, uplink := w.uplink ++ sent r.2, log := w.log ++ acted r.2 }

def loop (d : Deployment σ ι κ δ) (w : Network σ δ) (input : ι) : Network σ δ :=
  { w.perform (d.loop w.node input) with iterations := w.iterations + 1 }

def answer (w : Network σ δ) (m : MyMessage) (rest : List MyMessage) : Network σ δ :=
  { w with
    controller := (w.controller.handle m).1
    uplink := rest
    downlink := w.downlink ++ (w.controller.handle m).2.map (Origin.reply, ·) }

def deliver (d : Deployment σ ι κ δ) (w : Network σ δ) (o : Origin) (m : MyMessage)
    (rest : List (Origin × MyMessage)) : Network σ δ :=
  { { w with downlink := rest }.perform (d.receive w.node m) with delivered := w.delivered ++ [o] }

def user (d : Deployment σ ι κ δ) (w : Network σ δ) (c : κ) : Network σ δ :=
  let (item, text) := d.command c
  { w with
    controller := w.controller.store item text
    downlink := w.downlink ++ [(Origin.command, setMessage d.nodeId item text)] }

def step (d : Deployment σ ι κ δ) (w : Network σ δ) : Event ι κ → Option (Network σ δ)
  | .loop input => some (w.loop d input)
  | .answer =>
    match w.uplink with
    | [] => none
    | m :: rest => some (w.answer m rest)
  | .deliver =>
    match w.downlink with
    | [] => none
    | (o, m) :: rest => some (w.deliver d o m rest)
  | .user c => some (w.user d c)

/-- Everything that one step can do. -/
theorem step_cases {e : Event ι κ} (h : step d w e = some w') :
    (∃ input, e = .loop input ∧ w' = w.loop d input) ∨
    (∃ m rest, e = .answer ∧ w.uplink = m :: rest ∧ w' = w.answer m rest) ∨
    (∃ o m rest, e = .deliver ∧ w.downlink = (o, m) :: rest ∧ w' = w.deliver d o m rest) ∨
    (∃ c, e = .user c ∧ w' = w.user d c) := by
  cases e with
  | loop input => exact Or.inl ⟨input, rfl, by simpa [step] using h.symm⟩
  | answer =>
    right
    left
    cases hu : w.uplink with
    | nil => simp [step, hu] at h
    | cons m rest => exact ⟨m, rest, rfl, rfl, by simpa [step, hu] using h.symm⟩
  | deliver =>
    right
    right
    left
    cases hd : w.downlink with
    | nil => simp [step, hd] at h
    | cons p rest =>
      obtain ⟨o, m⟩ := p
      exact ⟨o, m, rest, rfl, rfl, by simpa [step, hd] using h.symm⟩
  | user c => exact Or.inr (Or.inr (Or.inr ⟨c, rfl, by simpa [step] using h.symm⟩))

end Network

/-! ### The messages a controller sends -/

section setMessage

variable {nodeId : Byte} {item : Item} {text : List Byte}

@[simp] theorem type_setMessage : (setMessage nodeId item text).type = item.2 := rfl
@[simp] theorem sensor_setMessage : (setMessage nodeId item text).sensor = item.1 := rfl

@[simp] theorem getCommand_setMessage : (setMessage nodeId item text).getCommand = cSet := by
  simp only [setMessage, MyMessage.setString, MyMessage.getCommand_write,
    MyMessage.getCommand_setAck]
  exact MyMessage.getCommand_setCommand (by decide)

@[simp] theorem isAck_setMessage : (setMessage nodeId item text).isAck = false := by
  simp [setMessage, MyMessage.setString]

theorem cString_data_setMessage :
    cString (setMessage nodeId item text).data = MyMessage.onWire text :=
  MyMessage.cString_data_setString text

theorem getFloat_setMessage :
    (setMessage nodeId item text).getFloat = atof (MyMessage.onWire text) :=
  MyMessage.getFloat_setString text

end setMessage

end MySensors
