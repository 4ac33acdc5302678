import FleetControl.Geo.Point

namespace FleetControl

inductive Device.Kind where
  | drone
  | robot
  | sensor
  | camera
  | vehicle
  | other
deriving DecidableEq, Inhabited

namespace Device.Kind

def name : Kind → String
  | .drone => "drone"
  | .robot => "robot"
  | .sensor => "sensor"
  | .camera => "camera"
  | .vehicle => "vehicle"
  | .other => "other"

def names : List (String × Kind) :=
  [Kind.drone, .robot, .sensor, .camera, .vehicle, .other].map fun k => (k.name, k)

end Device.Kind

inductive Device.Status where
  | online
  | offline
  | busy
  | idle
  | error
  | maintenance
  | charging
deriving DecidableEq, Inhabited

namespace Device.Status

def name : Status → String
  | .online => "online"
  | .offline => "offline"
  | .busy => "busy"
  | .idle => "idle"
  | .error => "error"
  | .maintenance => "maintenance"
  | .charging => "charging"

def names : List (String × Status) :=
  [Status.online, .offline, .busy, .idle, .error, .maintenance, .charging].map fun s => (s.name, s)

end Device.Status

structure Device where
  id : String
  kind : Device.Kind
  status : Device.Status
  location : Option Geo.Point
  battery : Option Float
  lastSeen : Instant
  /-- What the device can do, sorted and without repetition. -/
  capabilities : List String
deriving DecidableEq

namespace Device

def insertName (name : String) : List String → List String
  | [] => [name]
  | n :: rest =>
    if name < n then name :: n :: rest
    else if name = n then n :: rest
    else n :: insertName name rest

def sortNames (names : List String) : List String :=
  names.foldr insertName []

def reader : Json.Reader Device :=
  (Device.mk <$> .required "id" .text <*> .required "type" (.variant Kind.names)
    <*> .required "status" (.variant Status.names) <*> .perhaps "location" Geo.Point.reader
    <*> .perhaps "battery" .double <*> .required "last_seen" .instant
    <*> (sortNames <$> .defaulted "capabilities" (.list .text) []) :
    Json.Record Device).reader "struct Device"

def toJson (d : Device) : Json :=
  .ofEntries
    [("id", .text d.id), ("type", .text d.kind.name), ("status", .text d.status.name),
      ("location", Json.option Geo.Point.toJson d.location),
      ("battery", Json.option .double d.battery), ("last_seen", .text d.lastSeen.render),
      ("capabilities", .list (d.capabilities.map .text))]

end Device

end FleetControl
