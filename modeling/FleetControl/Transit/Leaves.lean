import FleetControl.Command.Record
import FleetControl.Device.Basic
import FleetControl.Geo.Fence
import FleetControl.Json.Measure
import FleetControl.Query.Description
import FleetControl.Telemetry.Payload
import FleetControl.Tool.Response

namespace FleetControl

namespace Transit

/-- The parts of a record that have a text form of their own. No record is better kept in its JSON form
than its leaves are in theirs. -/
inductive Leaf where
  | number (n : Json.Number)
  | instant (t : Instant)
  | identifier (id : Identifier)

def Leaf.Survives : Leaf → Prop
  | .number n => n.survives = true
  | .instant t => Instant.parse t.render = .ok t
  | .identifier id => Identifier.parse id.render = .ok id

namespace Leaf

def double (x : Float) : Leaf := .number (.double x)

def nat (n : Nat) : Leaf := .number (.int n)

end Leaf

def leavesOf (v : Json) : List Leaf := v.numbers.map .number

end Transit

open Transit (Leaf leavesOf)

def Geo.Point.leaves (p : Point) : List Leaf :=
  [.double p.longitude, .double p.latitude] ++ p.altitude.toList.map .double

def Geo.Sample.leaves (s : Sample) : List Leaf :=
  s.location.leaves ++ [.instant s.time] ++ s.speed.toList.map .double
    ++ s.heading.toList.map .double ++ s.accuracy.toList.map .double

def Geo.Fence.Area.leaves : Area → List Leaf
  | .polygon ring => ring.flatMap Point.leaves
  | .circle center radius => center.leaves ++ [.double radius]

def Geo.Fence.leaves (f : Fence) : List Leaf :=
  f.area.leaves ++ [.instant f.created, .instant f.updated]

def Geo.Fence.Event.leaves (e : Event) : List Leaf :=
  e.location.leaves ++ [.instant e.time] ++ e.inside.toList.map .double

def Device.leaves (d : Device) : List Leaf :=
  d.location.toList.flatMap Geo.Point.leaves ++ d.battery.toList.map .double ++ [.instant d.lastSeen]

def Command.Failure.leaves : Failure → List Leaf
  | .unreachable n _ | .deadline n => [.nat n]
  | .rejected _ => []

def Command.Record.leaves (r : Record) : List Leaf :=
  [.identifier r.id, .nat r.priority, .instant r.created, .nat r.attempts]
    ++ leavesOf (.object r.parameters) ++ r.started.toList.map .instant
    ++ r.completed.toList.map .instant ++ r.result.toList.flatMap leavesOf
    ++ r.error.toList.flatMap Failure.leaves

def Telemetry.Payload.leaves (p : Payload) : List Leaf :=
  p.time.toList.map .instant ++ p.location.toList.flatMap Geo.Point.leaves
    ++ p.battery.toList.map .double ++ p.speed.toList.map .double ++ p.heading.toList.map .double
    ++ leavesOf (.object p.extra)

def Query.Position.leaves (p : Position) : List Leaf := [.double p.longitude, .double p.latitude]

def Query.Geometry.leaves : Geometry → List Leaf
  | .point position => position.leaves
  | .polygon rings => rings.flatMap fun ring => ring.flatMap Position.leaves
  | .circle center radius => center.leaves ++ [.double radius]
  | .box low high => low.leaves ++ high.leaves

def Query.TimeRange.leaves (r : TimeRange) : List Leaf := [.instant r.start, .instant r.finish]

def Query.Description.leaves (d : Description) : List Leaf :=
  d.range.toList.flatMap TimeRange.leaves ++ d.geometry.toList.flatMap Geometry.leaves
    ++ d.limit.toList.map .nat

def Tool.Response.leaves (r : Response) : List Leaf := r.data.toList.flatMap leavesOf

end FleetControl
