import HomeConfig.Arduino.Pin
import HomeConfig.MySensors.Network

/-! The hot tub monitor: lighting relay and two water temperatures. -/
namespace HotTub

open Arduino MySensors

def childIdIntakeTemp : Byte := 0#8
def childIdOutletTemp : Byte := 10#8
def childIdLightStatus : Byte := 20#8

def updateInterval : ℕ := 10000

def lightingRelayPin : ℕ := 3
def lightingOn : Bool := true
def lightingOff : Bool := false

def msgIntakeTemp : MyMessage := .new childIdIntakeTemp vTemp
def msgOutletTemp : MyMessage := .new childIdOutletTemp vTemp
def msgLightingStatus : MyMessage := .new childIdLightStatus vStatus

/-- The global flag, and whether `loop` is inside its first wait. -/
structure Node where
  initialRelayStateSent : Bool
  waiting : Bool
deriving DecidableEq, Repr

def Node.boot : Node := ⟨false, false⟩

/-- What the two sensors show, as bit patterns of floats. -/
structure Readings where
  intake : BitVec 32
  outlet : BitVec 32
deriving DecidableEq, Repr

variable (nodeId : Byte)

/-- The first part of `loop`, up to its wait for the relay state. -/
def sendInitialRelayState (n : Node) : List (Effect Action) :=
  if n.initialRelayStateSent then []
  else
    (send (.registered nodeId) (msgLightingStatus.setBool lightingOff)).map .transmit ++
    (request (.registered nodeId) childIdLightStatus vStatus).map .transmit ++
    [.device (.waitFor 2000 cSet vStatus)]

def transmitTemperatures (r : Readings) : List (Effect Action) :=
  (send (.registered nodeId) (msgIntakeTemp.setFloat r.intake 2#8)).map .transmit ++
  (send (.registered nodeId) (msgOutletTemp.setFloat r.outlet 2#8)).map .transmit

/-- `loop` runs in two halves, between which messages can be received. -/
def loop (n : Node) (r : Readings) : Node × List (Effect Action) :=
  if n.waiting then
    ({ n with waiting := false },
      transmitTemperatures nodeId r ++ [.device (.wait updateInterval)])
  else ({ n with waiting := true }, sendInitialRelayState nodeId n)

def receive (n : Node) (message : MyMessage) : Node × List (Effect Action) :=
  if message.type ≠ vStatus then (n, [])
  else
    ({ n with initialRelayStateSent := true },
      [.device (.digitalWrite lightingRelayPin
        (if message.getBool then lightingOn else lightingOff))])

end HotTub
