import HomeConfig.Dht.Channel

/-! The roof climate node: temperature and humidity, and nothing else. -/
namespace RoofClimate

open Arduino MySensors

def childIdHum : Byte := 0#8
def childIdTemp : Byte := 1#8

def msgHum : MyMessage := .new childIdHum vHum
def msgTemp : MyMessage := .new childIdTemp vTemp

/-- The argument of `sleep`. The product is taken in the 16-bit `int`, where it wraps to a
negative number. -/
def updateInterval : ℕ := ((5#16 * 60#16 * 1000#16).signExtend 32).toNat

/-- The globals. -/
structure Node where
  temperature : Dht.Channel
  humidity : Dht.Channel
  metric : Bool
deriving DecidableEq, Repr

def Node.boot (metric : Bool) : Node := ⟨.boot, .boot, metric⟩

/-- What the sensor shows during one iteration. -/
structure Readings where
  temperature : BitVec 32
  humidity : BitVec 32
deriving DecidableEq, Repr

def loop (nodeId : Byte) (n : Node) (r : Readings) : Node × List (Effect Action) :=
  let t := n.temperature.poll nodeId msgTemp (Dht.convertTemperature n.metric) r.temperature
  let h := n.humidity.poll nodeId msgHum id r.humidity
  ({ n with temperature := t.1, humidity := h.1 },
    t.2 ++ h.2 ++ [.device (.sleep updateInterval)])

end RoofClimate
