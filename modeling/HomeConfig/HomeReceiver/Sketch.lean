import HomeConfig.HomeMonitor.Sketch
import Mathlib.Logic.Function.Basic

/-! The 433 MHz receiver: taking a frame apart and storing its reading. -/
namespace HomeReceiver

open Arduino

def stationNameBedroom : Fin 3 := 0
def stationNameGarage : Fin 3 := 1
def stationNameStudy : Fin 3 := 2
def readingTypeTemperature : Fin 3 := 0
def readingTypeHumidity : Fin 3 := 1
def readingTypeIdentifier : Fin 3 := 2

/-- The table `READINGS`. -/
abbrev Readings := Fin 3 → Fin 3 → Single

def colon : Byte := 58#8
def equalsSign : Byte := 61#8

/-- The three parts that `loop` takes from a frame. -/
@[ext]
structure Reading where
  stationName : List Byte
  readingType : List Byte
  readingValue : List Byte
deriving DecidableEq

/-- `RH_ASK::recv` into a buffer of the maximal length. -/
def recv (frame : List Byte) : List Byte := frame.take HomeMonitor.maxMessageLen

def parse (receivedData : List Byte) : Reading where
  stationName := substring receivedData 2 (unsignedInt (indexOf receivedData colon))
  readingType := substring receivedData (unsignedInt (indexOf receivedData colon + 1))
    (unsignedInt (indexOf receivedData equalsSign))
  readingValue := substring receivedData (unsignedInt (indexOf receivedData equalsSign + 1))
    receivedData.length

def set (readings : Readings) (stationId readingType : Fin 3) (value : Single) : Readings :=
  Function.update readings stationId (Function.update (readings stationId) readingType value)

/-- `random` is what the library function of that name returns in this call. -/
def storeStationValue (readings : Readings) (random : ℤ) (stationId : Fin 3) (type : Byte)
    (value : List Byte) : Readings :=
  let readings := set readings stationId readingTypeIdentifier (.ofRat random)
  if type = charByte 't' then set readings stationId readingTypeTemperature (toFloat value)
  else if type = charByte 'h' then set readings stationId readingTypeHumidity (toFloat value)
  else readings

/-- The part of `loop` that handles a frame. -/
def loop (readings : Readings) (random : ℤ) (frame : List Byte) : Readings :=
  let reading := parse (recv frame)
  let store (readings : Readings) (stationId : Fin 3) : Readings :=
    storeStationValue readings random stationId (charAt reading.readingType 0)
      reading.readingValue
  let readings :=
    if reading.stationName = ascii "bedroom" then store readings stationNameBedroom else readings
  let readings :=
    if reading.stationName = ascii "garage" then store readings stationNameGarage else readings
  if reading.stationName = ascii "study" then store readings stationNameStudy else readings

end HomeReceiver
