import FleetControl.Console.Startup
import FleetControl.Rehearsal.Session

namespace FleetControl.Console

namespace Program

def cast (p : Program) : Rehearsal.Cast :=
  ⟨⟨p.settings.dispatcher, p.settings.query⟩, p.settings.retry⟩

/-- The program when it has looked for the device service in vain. -/
def opening (p : Program) : Rehearsal.Stage :=
  let stage := Rehearsal.Stage.start (.refused p.client.noReply) ⟨some .poolTimedOut, [], 0, .null⟩
  (stage.health p.cast.policy).1

def isBlankLine (line : String) : Bool := line.toList.all Text.isBlank

def answer (p : Program) (s : Rehearsal.Stage) (line : String) :
    Rehearsal.Stage × Option Tool.Response :=
  if isBlankLine line then (s, none)
  else
    let (s, response) := s.answerLine p.cast line
    (s.rest p.cast.policy, some response)

def answers (p : Program) (s : Rehearsal.Stage) : List String → List Tool.Response
  | [] => []
  | line :: rest =>
    let (s, response) := p.answer s line
    response.toList ++ answers p s rest

end Program

end FleetControl.Console
