import FleetControl.Telemetry.Stream

namespace FleetControl.Telemetry

/-- What a turn of the loop comes to: it goes round, or the call ends. -/
inductive Turn where
  | again (d : Decoder)
  | done (result : Except EventError (Option String)) (d : Decoder)

namespace Decoder

def onLine (d : Decoder) (line rest : List UInt8) : Turn :=
  match Line.ofBytes (Stream.trimmed line) with
  | .blank =>
    if d.lines.isEmpty then .again ⟨rest, d.lines, d.size⟩
    else .done (.ok (some ("\n".intercalate d.lines.reverse))) ⟨rest, [], 0⟩
  | .malformed => .done (.error .notText) ⟨rest, d.lines, d.size⟩
  | .passedOver => .again ⟨rest, d.lines, d.size⟩
  | .data value =>
    let size := d.size + value.utf8ByteSize
    if maxEventSize < size then .done (.error (.tooLarge size)) empty
    else .again ⟨rest, value :: d.lines, size⟩

def onTail (d : Decoder) : Turn :=
  let pending := d.buffer.length + d.size
  if maxEventSize < pending then .done (.error (.tooLarge pending)) empty else .done (.ok none) d

def turn (d : Decoder) : Turn :=
  match d.buffer.findIdx? (· == lineFeed) with
  | none => d.onTail
  | some n => d.onLine (d.buffer.take n) (d.buffer.drop (n + 1))

inductive Loops : Nat → Decoder → Except EventError (Option String) × Decoder → Prop where
  | done {d d' : Decoder} {result : Except EventError (Option String)} :
    d.turn = .done result d' → Loops 1 d (result, d')
  | again {n : Nat} {d d' : Decoder} {outcome : Except EventError (Option String) × Decoder} :
    d.turn = .again d' → Loops n d' outcome → Loops (n + 1) d outcome

inductive Call where
  | next
  | nextPayload

def answer (d : Decoder) : Call → Except EventError (Option (String ⊕ Payload)) × Decoder
  | .next => (d.next.1.map (Option.map .inl), d.next.2)
  | .nextPayload => (d.nextPayload.1.map (Option.map .inr), d.nextPayload.2)

/-- Step after step yields a result, until one yields nothing. -/
inductive Drains {α : Type} :
    (Nat → Decoder → Except EventError (Option α) × Decoder) → Decoder →
      List (Except EventError α) → Decoder → Prop where
  | nothing {steps : Nat → Decoder → Except EventError (Option α) × Decoder} {d d' : Decoder} :
    steps 0 d = (.ok none, d') → Drains steps d [] d'
  | result {steps : Nat → Decoder → Except EventError (Option α) × Decoder} {d d' d'' : Decoder}
    {r : Except EventError α} {results : List (Except EventError α)} :
    steps 0 d = (r.map some, d') → Drains (fun n => steps (n + 1)) d' results d'' →
      Drains steps d (r :: results) d''

end Decoder

end FleetControl.Telemetry
