import FleetControl.Command.Action

namespace FleetControl.Dispatch

structure Settings where
  confirmed : List Command.Action
  /-- The only actions that may be submitted, when there is a choice. -/
  allowed : Option (List Command.Action)
  historyLimit : Nat
deriving DecidableEq

namespace Settings

def standard : Settings where
  confirmed := Command.Action.confirmedByDefault
  allowed := none
  historyLimit := 100

def allows (s : Settings) (action : Command.Action) : Bool :=
  s.allowed.all fun actions => actions.contains action

def reader : Json.Reader Settings :=
  (Settings.mk
    <$> .defaulted "confirmation_required" (.list Command.Action.reader) standard.confirmed
    <*> .perhaps "allowed_actions" (.list Command.Action.reader)
    <*> .defaulted "history_limit" .count standard.historyLimit :
    Json.Record Settings).reader "struct DispatcherConfig"

end Settings

end FleetControl.Dispatch
