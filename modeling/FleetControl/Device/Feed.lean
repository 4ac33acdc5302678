import FleetControl.Device.CallError

namespace FleetControl.Device

abbrev Item := Except CallError Telemetry.Payload

inductive Feed.Step where
  | message (p : Telemetry.Payload)
  | passedOver
  | ended

/-- Events that cannot be read are passed over; any other error ends the feed. -/
def Feed.step : Item → Feed.Step
  | .ok p => .message p
  | .error (.stream _) => .passedOver
  | .error (.decode _) => .passedOver
  | .error _ => .ended

def feed : List Item → List Telemetry.Payload
  | [] => []
  | item :: rest =>
    match Feed.step item with
    | .message p => p :: feed rest
    | .passedOver => feed rest
    | .ended => []

def maxSample : Nat := 1000

def sampleSize (asked : Nat) : Nat := max 1 (min asked maxSample)

end FleetControl.Device
