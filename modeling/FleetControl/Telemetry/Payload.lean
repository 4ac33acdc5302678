import FleetControl.Geo.Point

namespace FleetControl.Telemetry

structure Payload where
  device : String
  time : Option Instant
  location : Option Geo.Point
  battery : Option Float
  speed : Option Float
  heading : Option Float
  /-- The fields not known here. -/
  extra : Json.Fields

namespace Payload

def ownRecord : Json.Record (Json.Fields → Payload) :=
  Payload.mk <$> .required "device_id" .text <*> .perhaps "timestamp" .instant
    <*> .perhaps "location" Geo.Point.reader <*> .perhaps "battery" .double
    <*> .perhaps "speed" .double <*> .perhaps "heading" .double

def reader : Json.Reader Payload :=
  ownRecord.readerWith "struct TelemetryPayload"
    (fun others => Json.Reader.fields .aside (.object others none)) fun payload extra => payload extra

def toJson (p : Payload) : Json :=
  .ofEntries
    ([("device_id", .text p.device), ("timestamp", Json.option (fun t => .text t.render) p.time),
      ("location", Json.option Geo.Point.toJson p.location),
      ("battery", Json.option .double p.battery), ("speed", Json.option .double p.speed),
      ("heading", Json.option .double p.heading)] ++ p.extra)

end Payload

end FleetControl.Telemetry
