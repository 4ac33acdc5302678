import FleetControl.Console.Offline

namespace FleetControl.Console

def configurationFile : IO (Option String) := do
  try
    return some (← IO.FS.readFile Config.Origin.file.name)
  catch _ =>
    return none

def settingVariables : IO (List (String × String)) :=
  (Config.settingKeys.map Config.variableOf).filterMapM fun name => do
    return (← IO.getEnv name).map fun value => (name, value)

partial def serve (program : Program) (stage : Rehearsal.Stage) (input output : IO.FS.Stream) :
    IO Unit := do
  let line ← input.getLine
  if line.isEmpty then return
  let (stage, response) := program.answer stage line
  if let some response := response then
    output.putStrLn response.toJson.render
    output.flush
  serve program stage input output

def run : IO UInt32 := do
  match Program.start (← configurationFile) (← settingVariables) with
  | .error e =>
    for line in e.lines do
      IO.eprintln line
    return 1
  | .ok program =>
    serve program program.opening (← IO.getStdin) (← IO.getStdout)
    return 0

end FleetControl.Console

def main : IO UInt32 := FleetControl.Console.run
