import FleetControl.Config.Environment
import FleetControl.Config.Reading

namespace FleetControl.Config

inductive LoadError where
  | file (e : Toml.Error)
  | value (e : ReadError)
deriving DecidableEq

def LoadError.message : LoadError → String
  | .file e => e.message ++ " in " ++ Origin.file.name
  | .value e => e.message

def Tree.ofFile (text : String) : Except LoadError Tree :=
  match Toml.parse text with
  | .error e => .error (.file e)
  | .ok entries =>
    .ok ((Tree.ofEntries entries).foldl (fun before (key, v) => before.put key v) (.table []))

/-- The settings that a file, if there is one, and the variables of the environment tell. The environment
wins over the file key by key. -/
def load (file : Option String) (environment : List (String × String)) :
    Except LoadError Settings := do
  let told ← file.elim (.ok (.table [])) Tree.ofFile
  ((environment.foldl Tree.withVariable told).settings).mapError .value

end FleetControl.Config
