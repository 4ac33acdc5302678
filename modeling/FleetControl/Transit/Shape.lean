import FleetControl.Transit.Leaves

namespace FleetControl.Transit

inductive Shape where
  | point
  | sample
  | device
  | command
  | failure
  | fence
  | fenceEvent
  | telemetry
  | search
  | answer
deriving DecidableEq

namespace Shape

def Carrier : Shape → Type
  | point => Geo.Point
  | sample => Geo.Sample
  | device => Device
  | command => Command.Record
  | failure => Command.Failure
  | fence => Geo.Fence
  | fenceEvent => Geo.Fence.Event
  | telemetry => Telemetry.Payload
  | search => Query.Description
  | answer => Tool.Response

def reader : (s : Shape) → Json.Reader s.Carrier
  | point => Geo.Point.reader
  | sample => Geo.Sample.reader
  | device => Device.reader
  | command => Command.Record.reader
  | failure => Command.Failure.reader
  | fence => Geo.Fence.reader
  | fenceEvent => Geo.Fence.Event.reader
  | telemetry => Telemetry.Payload.reader
  | search => Query.Description.reader
  | answer => Tool.Response.reader

def toJson : (s : Shape) → s.Carrier → Json
  | point => Geo.Point.toJson
  | sample => Geo.Sample.toJson
  | device => Device.toJson
  | command => Command.Record.toJson
  | failure => Command.Failure.toJson
  | fence => Geo.Fence.toJson
  | fenceEvent => Geo.Fence.Event.toJson
  | telemetry => Telemetry.Payload.toJson
  | search => Query.Description.toJson
  | answer => Tool.Response.toJson

def leaves : (s : Shape) → s.Carrier → List Leaf
  | point => Geo.Point.leaves
  | sample => Geo.Sample.leaves
  | device => Device.leaves
  | command => Command.Record.leaves
  | failure => Command.Failure.leaves
  | fence => Geo.Fence.leaves
  | fenceEvent => Geo.Fence.Event.leaves
  | telemetry => Telemetry.Payload.leaves
  | search => Query.Description.leaves
  | answer => Tool.Response.leaves

/-- Whether a field that the shape does not know is kept with the record. -/
def keeps : Shape → String → Bool
  | telemetry, name => !Telemetry.Payload.ownRecord.names.contains name
  | _, _ => false

end Shape

end FleetControl.Transit
