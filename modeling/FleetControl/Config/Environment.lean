import FleetControl.Config.Tree
import FleetControl.Text.Whole

namespace FleetControl.Config

def variablePrefix : String := "spatial_agent__"

def lower (s : String) : String := String.ofList (s.toList.map Char.toLower)

def keyOf? (name : String) : Option String :=
  let name := lower name
  if name.startsWith variablePrefix then
    some ((String.ofList (name.toList.drop variablePrefix.length)).replace "__" ".")
  else none

def settingKeys : List String :=
  ["device_api.endpoint", "device_api.api_key", "device_api.connect_timeout", "retry.max_attempts",
    "retry.min_wait", "retry.max_wait", "retry.attempt_timeout", "retry.overall_timeout",
    "dispatcher.confirmation_required", "dispatcher.allowed_actions", "dispatcher.history_limit",
    "query.max_rows", "query.point_radius_m", "database.url", "database.max_connections"]

def variableOf (key : String) : String :=
  String.ofList ((variablePrefix ++ key.replace "." "__").toList.map Char.toUpper)

/-- The keys whose values are lists of texts, separated by commas. -/
def listKeys : List String :=
  ["dispatcher.confirmation_required", "dispatcher.allowed_actions"]

def typed? (value : String) : Option Scalar :=
  match lower value with
  | "true" => some (.bool true)
  | "false" => some (.bool false)
  | _ =>
    match Text.intUpTo 9223372036854775807 value with
    | .ok n => some (.int n)
    | .error _ => (Decimal.parse? value).map .double

def variableValue (key value : String) : Tree :=
  match typed? value with
  | some v => .leaf .environment v
  | none =>
    if listKeys.contains key then
      .list (some .environment) ((value.toList.splitOn ',').map fun part =>
        .leaf .environment (.text (String.ofList part)))
    else .leaf .environment (.text value)

def Tree.withVariable (t : Tree) (pair : String × String) : Tree :=
  match keyOf? pair.1 with
  | none => t
  | some key => t.put key (variableValue key pair.2)

end FleetControl.Config
