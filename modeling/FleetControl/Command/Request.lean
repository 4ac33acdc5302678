import FleetControl.Command.Record

namespace FleetControl.Command

structure Request where
  command : Identifier
  device : String
  action : Action
  parameters : Json.Fields
  priority : Nat

namespace Request

def ofRecord (r : Record) : Request := ⟨r.id, r.device, r.action, r.parameters, r.priority⟩

def toJson (r : Request) : Json :=
  .ofEntries
    [("command_id", .text r.command.render), ("device_id", .text r.device),
      ("action", .text r.action.name), ("parameters", .object r.parameters),
      ("priority", .nat r.priority)]

end Request

end FleetControl.Command
