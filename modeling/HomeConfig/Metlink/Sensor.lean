import HomeConfig.Python.DateTime

/-! The public transport sensor: the next service of a route at a stop. -/
namespace Metlink

open Python

variable (py : Runtime)

/-! ### Texts of departures -/

/-- `timedelta(hours=int(t[19:22]), minutes=int(t[23:]))` -/
def offset (t : Str) : Result ℤ :=
  match py.intOfStr ((t.drop 19).take 3), py.intOfStr (t.drop 23) with
  | some hours, some minutes => timedelta ((hours * 60 + minutes) * microsecondsPerMinute)
  | _, _ => .error .valueError

def prettyTimestamp : Json → Result Str
  | .str t => do
    let ret ← strptime (Matcher.isoMinutes py) (.str (t.take 16))
    let ret ←
      match t[18]? with
      | none => .error .indexError
      | some '+' => do
        let span ← offset py t
        ret.add span
      | some '-' => do
        let span ← offset py t
        ret.add (-span)
      | some _ => .ok ret
    return ret.strftime
  | _ => .error .typeError

/-! ### A single service

Its data is a JSON value, read by `_get`. -/

def routeNumber (service : Json) : Result Json := service.get (text "ServiceID") .null

def displayDeparture (service : Json) : Result Json := service.get (text "DisplayDeparture") .null

def isRealTime (service : Json) : Result Json := service.get (text "IsRealtime") .null

def departureSeconds (service : Json) : Result Json :=
  service.get (text "DisplayDepartureSeconds") .null

def expectedDeparture (service : Json) : Result Json := do
  let value ← service.get (text "ExpectedDeparture") (.bool false)
  if value.truthy then
    let time ← prettyTimestamp py value
    return .str time
  else return value

def attributes (service : Json) : Result Dict := do
  let operator ← service.get (text "OperatorRef") .null
  let expectedDeparture ← expectedDeparture py service
  let departureStatus ← service.get (text "DepartureStatus") .null
  let isRealTime ← service.get (text "IsRealtime") .null
  let originStopName ← service.get (text "OriginStopName") .null
  let destinationStopName ← service.get (text "DestinationStopName") .null
  let vehicleFeature ← service.get (text "VehicleFeature") .null
  let serviceId ← service.get (text "ServiceID") .null
  return [(text "Operator", operator), (text "ExpectedDeparture", expectedDeparture),
    (text "DepartureStatus", departureStatus), (text "IsRealtime", isRealTime),
    (text "OriginStopName", originStopName), (text "DestinationStopName", destinationStopName),
    (text "VehicleFeature", vehicleFeature), (text "ServiceID", serviceId)]

/-! ### The stop -/

/-- `str(route_number)` -/
def routeText : Option Str → Str
  | none => text "None"
  | some routeNumber => routeNumber

/-- The first element of the generator `services`. -/
def firstService (route : Option Str) : List Json → Result (Option Json)
  | [] => .ok none
  | service :: rest => do
    let number ← routeNumber service
    if routeText route = py.str number then return some service
    else firstService route rest

def nextService (route : Option Str) (stop : Json) : Result (Option Json) := do
  let services ← stop.get (text "Services") .null
  let services ← services.iterate
  firstService py route services

/-- One entry of `Stop`, which may be missing. -/
def stopEntry (key : Str) (stop : Json) : Result Json := do
  let entries ← stop.get (text "Stop") (.dict [])
  entries.get key .null

/-! ### The sensor -/

structure MetlinkSensor where
  stopNumber : Str
  routeNumber : Str
  metlinkStop : Json

/-- A state: minutes, or a time of day. -/
inductive State where
  | minutes (n : ℤ)
  | time (t : Str)
deriving DecidableEq, Repr

namespace MetlinkSensor

variable (sensor : MetlinkSensor)

def nextService : Result (Option Json) :=
  Metlink.nextService py (some sensor.routeNumber) sensor.metlinkStop

def state : Result (Option State) := do
  match ← sensor.nextService py with
  | none => return none
  | some service =>
    let realTime ← isRealTime service
    if realTime.truthy then
      let seconds ← departureSeconds service
      let quotient ← trueDivide 60 seconds
      let minutes ← intOfFloat quotient
      return some (.minutes minutes)
    else
      let departure ← displayDeparture service
      if departure.truthy then
        let time ← prettyTimestamp py departure
        return some (.time time)
      else return none

/-- The keys of the two dictionaries differ, so `update` appends. -/
def deviceStateAttributes : Result Dict := do
  let stopName ← stopEntry (text "Name") sensor.metlinkStop
  let latitude ← stopEntry (text "Lat") sensor.metlinkStop
  let longitude ← stopEntry (text "Long") sensor.metlinkStop
  let stopAttributes := [(text "Stop", .str sensor.stopNumber),
    (text "Route", .str sensor.routeNumber), (text "StopName", stopName),
    (text "Latitude", latitude), (text "Longitude", longitude)]
  match ← sensor.nextService py with
  | none => return stopAttributes
  | some service =>
    let serviceAttributes ← attributes py service
    return stopAttributes ++ serviceAttributes

def unitOfMeasurement : Result Str := do
  match ← sensor.nextService py with
  | none => return text "offline"
  | some service =>
    let realTime ← isRealTime service
    if realTime.truthy then return text "min" else return text "offline"

end MetlinkSensor

end Metlink
