import HomeConfig.Arduino.StringObject

/-! The 433 MHz stations: the frames that they transmit. -/
namespace HomeMonitor

open Arduino

/-- `RH_ASK_MAX_MESSAGE_LEN`. -/
def maxMessageLen : ℕ := 67 - 4 - 3

/-- The text of a reading. -/
def message (stationName readingType readingValue : List Byte) : List Byte :=
  ascii "R>" ++ stationName ++ ascii ":" ++ readingType ++ ascii "=" ++ readingValue

/-- The bytes that `send_message` hands to `driver.send`. -/
def sendMessage (stationName readingType readingValue : List Byte) : List Byte :=
  let message := message stationName readingType readingValue
  let bufLen := message.length
  toCharArray message bufLen

/-! The two sketches have the same function and differ in the name of the station. -/

def garageDoorSendMessage (readingType readingValue : List Byte) : List Byte :=
  sendMessage (ascii "garage") readingType readingValue

def soilHumiditySendMessage (readingType readingValue : List Byte) : List Byte :=
  sendMessage (ascii "kitchen") readingType readingValue

end HomeMonitor
