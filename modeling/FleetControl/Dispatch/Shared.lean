import FleetControl.Dispatch.Run

namespace FleetControl.Dispatch

/-- An entry under all who write to it at once: the lane that delivers the command, and any number of
callers who cancel it. A caller whose cancellation is applied raises the signal in a write of its own,
so other writes may come between the two. -/
structure Shared where
  entry : Entry
  /-- How many callers whose cancellation was applied have still to raise the signal. -/
  unsignalled : Nat

namespace Shared

def new (r : Command.Record) : Shared := ⟨.new r, 0⟩

/-- One write to the entry. An event that may not happen is refused and leaves all as it is. -/
inductive Writes : Shared → Shared → Prop where
  | event {s : Shared} {e : Entry} {now : Instant} {event : Command.Event} :
    event ≠ .cancel → s.entry.apply now event = .ok e → Writes s { s with entry := e }
  | attempt {s : Shared} (n : Nat) : Writes s { s with entry := s.entry.recordAttempt n }
  | cancel {s : Shared} {e : Entry} {now : Instant} :
    s.entry.apply now .cancel = .ok e → Writes s ⟨e, s.unsignalled + 1⟩
  | signal {e : Entry} {n : Nat} : Writes ⟨e, n + 1⟩ ⟨e.interrupt, n⟩
  | refused {s : Shared} {now : Instant} {event : Command.Event}
      {bad : Command.InvalidTransition} : s.entry.apply now event = .error bad → Writes s s

end Shared

/-- How a caller is answered who waits for a command from state `s` on, and in which state. A command
that is not known is told at once. Else the caller looks out for the status of a command that is over,
and then reads the record, at that moment or later. -/
inductive Awaited (settings : Settings) (p : Retry.Policy) (s : System) (id : Identifier) :
    System → Except Service.Error Command.Record → Prop where
  | unknown : s.entryOf? id = none → Awaited settings p s id s (.error (.commandNotFound id))
  | told {labels labels' : List Label} {messages messages' : List Message} {t u : System}
      {e : Entry} :
    (s.entryOf? id).isSome = true → Run settings p s labels messages t → t.entryOf? id = some e →
      e.published.isTerminal = true → Run settings p t labels' messages' u →
        Awaited settings p s id u (u.status id)

end FleetControl.Dispatch
