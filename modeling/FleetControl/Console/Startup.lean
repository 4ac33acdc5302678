import FleetControl.Config.Load
import FleetControl.Device.Client
import FleetControl.Service.Error
import FleetControl.Store.Address

namespace FleetControl.Console

inductive StartError where
  | load (e : Config.LoadError)
  | settings (problem : Config.Settings.Problem)
  | store (e : Store.Error)
  | device (e : Device.CallError)
deriving DecidableEq

namespace StartError

def sentences : StartError → List String
  | .load e => ["Failed to load configuration", e.message]
  | .settings problem => [(Service.Error.configuration problem.message).message]
  | .store e => (Service.Error.store e).message :: e.sentences
  | .device e => ["Failed to build device API client", e.message]

def withMargin (first margin text : String) : List String :=
  match text.splitOn "\n" with
  | [] => [first]
  | line :: rest => (first ++ line) :: rest.map (margin ++ ·)

def reasonLines (reasons : List String) : List String :=
  match reasons with
  | [reason] => withMargin "    " "    " reason
  | _ => (reasons.mapIdx fun i reason =>
      withMargin ("    " ++ toString i ++ ": ") "       " reason).flatten

def lines (e : StartError) : List String :=
  match e.sentences with
  | [] => []
  | [sentence] => withMargin "Error: " "" sentence
  | sentence :: reasons =>
    withMargin "Error: " "" sentence ++ ["", "Caused by:"] ++ reasonLines reasons

end StartError

structure Program where
  settings : Config.Settings
  database : Store.Address
  client : Device.Client

/-- The settings are loaded and checked, then the address of the database and the endpoint of the device
service are read. The first of these that fails ends the program. -/
def Program.start (file : Option String) (environment : List (String × String)) :
    Except StartError Program := do
  let settings ← (Config.load file environment).mapError .load
  let _ ← settings.check.mapError .settings
  let database ← (Store.Address.ofText settings.database.url).mapError .store
  let client ←
    (Device.Client.ofEndpoint settings.endpoint.url settings.endpoint.key).mapError .device
  return ⟨settings, database, client⟩

end FleetControl.Console
