import FleetControl.Telemetry.Decoder

namespace FleetControl.Device

/-- Why a call to the device service has no answer that can be used. -/
inductive CallError where
  | transport (message : String)
  | timeout
  | status (code : Nat) (body : String)
  | decode (message : String)
  | stream (e : Telemetry.EventError)
deriving DecidableEq

namespace CallError

def kind : CallError → String
  | .transport _ => "transport"
  | .timeout => "timeout"
  | .status _ _ => "status"
  | .decode _ => "decode"
  | .stream _ => "stream"

def message : CallError → String
  | .transport m => "transport error: " ++ m
  | .timeout => "request timed out"
  | .status code body => "device API returned " ++ toString code ++ ": " ++ body
  | .decode m => "invalid response: " ++ m
  | .stream e => "telemetry stream error: " ++ e.message

/-- Whether the same call may succeed when it is made again. Of the error statuses these are 408, 429
and those of the service itself. -/
def isRetryable : CallError → Bool
  | .transport _ => true
  | .timeout => true
  | .status code _ => code == 408 || code == 429 || (500 ≤ code && code < 600)
  | .decode _ => false
  | .stream _ => false

end CallError

end FleetControl.Device
