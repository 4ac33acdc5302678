import FleetControl.Tool.Run

namespace FleetControl.Tool

/-- From `s` a line is answered with a response. The labels are what comes between the call and its
answer, the messages are all that is sent for commands in this time, and the dispatcher is left as
`u`. -/
inductive Handled (setup : Setup) (p : Retry.Policy) (s : Dispatch.System) (fresh : Identifier)
    (now : Instant) (line : String) :
    List Dispatch.Label → List Dispatch.Message → Dispatch.System → Response → Prop where
  | atOnce {u : Dispatch.System} {result : Except Service.Error Json} :
    startLine setup s fresh now line = (u, .answered result) →
      Handled setup p s fresh now line [] [] u (.ofResult result)
  | errand {labels : List Dispatch.Label} {messages : List Dispatch.Message}
      {t u : Dispatch.System} {e : Errand} (reply : Except Service.Error Json) :
    startLine setup s fresh now line = (t, .errand e) →
      Dispatch.Run setup.dispatcher p t labels messages u →
        Handled setup p s fresh now line labels ((Progress.errand e).messages ++ messages) u
          (.ofResult (e.finish u reply))

end FleetControl.Tool
