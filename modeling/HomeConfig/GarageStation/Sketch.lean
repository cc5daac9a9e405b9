import HomeConfig.Dht.Channel
import HomeConfig.MySensors.Network

/-! The garage base station: door relay, door sensor and climate readings. -/
namespace GarageStation

open Arduino MySensors

def childIdHum : Byte := 0#8
def childIdTemp : Byte := 1#8
def childIdRelayState : Byte := 2#8
def childIdGarageDoor1State : Byte := 3#8

/-- Centimetres. -/
def garageDoor1ClosedRange : ℤ := 400

def updateInterval : ℕ := 10000

def mainDoorRelay : ℕ := 3
def rangefinderTrigPin : ℕ := 5
def relayOn : ℤ := 1
def relayOff : ℤ := 0
def doorOpen : ℤ := 1
def doorClosed : ℤ := 0

def msgHum : MyMessage := .new childIdHum vHum
def msgTemp : MyMessage := .new childIdTemp vTemp
def msgMainDoorRelayStatus : MyMessage := .new childIdRelayState vStatus
def msgMainDoorStatus : MyMessage := .new childIdGarageDoor1State vStatus

/-- The globals, and whether `loop` is inside its first wait. -/
structure Node where
  temperature : Dht.Channel
  humidity : Dht.Channel
  metric : Bool
  initialRelayStateSent : Bool
  waiting : Bool
deriving DecidableEq, Repr

def Node.boot (metric : Bool) : Node := ⟨.boot, .boot, metric, false, false⟩

/-- What the sensors show during one iteration; the echo is `pulseIn`'s duration. -/
structure Readings where
  temperature : BitVec 32
  humidity : BitVec 32
  echo : ℕ
deriving DecidableEq, Repr

variable (nodeId : Byte)

/-- Transmit the message with an integer payload. -/
def sendInt (message : MyMessage) (value : ℤ) : List (Effect Action) :=
  (send (.registered nodeId) (message.setInt value)).map .transmit

/-- The first part of `loop`, up to its wait for the relay state. -/
def sendInitialRelayState (n : Node) : List (Effect Action) :=
  if n.initialRelayStateSent then []
  else sendInt nodeId msgMainDoorRelayStatus relayOff ++
    (request (.registered nodeId) childIdRelayState vStatus).map .transmit ++
    [.device (.waitFor 2000 cSet vStatus)]

/-- `(duration / 2) / 29.1`. -/
def distanceInCm (echo : ℕ) : Single :=
  Single.div (.div (.ofRat echo) (.ofRat 2)) (.ofRat (291 / 10))

/-- The rangefinder part of `loop`. -/
def sendDoorStatus (echo : ℕ) : List (Effect Action) :=
  [.device (.digitalWrite rangefinderTrigPin false),
    .device (.digitalWrite rangefinderTrigPin true),
    .device (.digitalWrite rangefinderTrigPin false)] ++
  if Single.lt (.ofRat garageDoor1ClosedRange) (distanceInCm echo) then
    sendInt nodeId msgMainDoorStatus doorOpen
  else sendInt nodeId msgMainDoorStatus doorClosed

/-- The rest of `loop`, from the sensor readings to the closing wait. -/
def sendReadings (n : Node) (r : Readings) : Node × List (Effect Action) :=
  let t := n.temperature.poll nodeId msgTemp (Dht.convertTemperature n.metric) r.temperature
  let h := n.humidity.poll nodeId msgHum id r.humidity
  ({ n with temperature := t.1, humidity := h.1 },
    t.2 ++ h.2 ++ sendDoorStatus nodeId r.echo ++ [.device (.wait updateInterval)])

/-- `loop` runs in two halves, between which messages can be received. -/
def loop (n : Node) (r : Readings) : Node × List (Effect Action) :=
  if n.waiting then
    let s := sendReadings nodeId n r
    ({ s.1 with waiting := false }, s.2)
  else ({ n with waiting := true }, sendInitialRelayState nodeId n)

/-- The relay is closed for half a second and both levels are reported. -/
def pulseRelay : List (Effect Action) :=
  [.device (.digitalWrite mainDoorRelay true)] ++
  sendInt nodeId msgMainDoorRelayStatus relayOn ++
  [.device (.sleep 500), .device (.digitalWrite mainDoorRelay false)] ++
  sendInt nodeId msgMainDoorRelayStatus relayOff

def receive (n : Node) (message : MyMessage) : Node × List (Effect Action) :=
  if message.type = vStatus then
    if !n.initialRelayStateSent then ({ n with initialRelayStateSent := true }, [])
    else (n, pulseRelay nodeId)
  else (n, [])

end GarageStation
