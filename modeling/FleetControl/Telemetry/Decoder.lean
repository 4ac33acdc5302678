import FleetControl.Telemetry.Payload
import FleetControl.Text.Utf8

namespace FleetControl.Telemetry

def maxEventSize : Nat := 1048576

def lineFeed : UInt8 := 10

def carriageReturn : UInt8 := 13

inductive EventError where
  | tooLarge (size : Nat)
  | notText
  | notPayload (e : Json.ReadError)
deriving DecidableEq

def EventError.message : EventError → String
  | .tooLarge n =>
    "Event too large: " ++ toString n ++ " bytes (max: " ++ toString maxEventSize ++ ")"
  | .notText => "Event is not valid UTF-8"
  | .notPayload e => "Event payload is not valid JSON: " ++ e.message

inductive Line where
  | blank
  | data (value : String)
  | passedOver
  | malformed
deriving DecidableEq

def dropSpace : List Char → List Char
  | ' ' :: rest => rest
  | cs => cs

/-- What a text says that is not empty: a comment, or a field with its value after a colon. -/
def Line.ofText (cs : List Char) : Line :=
  if cs.head? = some ':' then .passedOver
  else if cs.takeWhile (· != ':') = "data".toList then
    .data (String.ofList (dropSpace ((cs.dropWhile (· != ':')).drop 1)))
  else .passedOver

def Line.ofBytes (bytes : List UInt8) : Line :=
  if bytes.isEmpty then .blank
  else
    match Text.decode? bytes with
    | none => .malformed
    | some s => .ofText s.toList

/-- A decoder: bytes after the last line end, and the data lines of the event so far. -/
structure Decoder where
  buffer : List UInt8
  /-- The data lines, the last one first. -/
  lines : List String
  size : Nat

namespace Decoder

def empty : Decoder := ⟨[], [], 0⟩

def extend (d : Decoder) (chunk : List UInt8) : Decoder :=
  { d with buffer := d.buffer ++ chunk }

/-- The bytes of a line, held in reverse, without a carriage return at its end. -/
def lineOf : List UInt8 → List UInt8
  | [] => []
  | last :: before => if last == carriageReturn then before.reverse else (last :: before).reverse

/-- Reads on from a partial line, held in reverse, to the next event or error. -/
def scan (line : List UInt8) (lines : List String) (size : Nat) :
    List UInt8 → Except EventError (Option String) × Decoder
  | [] =>
    let pending := line.length + size
    if maxEventSize < pending then (.error (.tooLarge pending), empty)
    else (.ok none, ⟨line.reverse, lines, size⟩)
  | b :: rest =>
    if b == lineFeed then
      match Line.ofBytes (lineOf line) with
      | .blank =>
        if lines.isEmpty then scan [] lines size rest
        else (.ok (some ("\n".intercalate lines.reverse)), ⟨rest, [], 0⟩)
      | .malformed => (.error .notText, ⟨rest, lines, size⟩)
      | .passedOver => scan [] lines size rest
      | .data value =>
        let size := size + value.utf8ByteSize
        if maxEventSize < size then (.error (.tooLarge size), empty)
        else scan [] (value :: lines) size rest
    else scan (b :: line) lines size rest

def next (d : Decoder) : Except EventError (Option String) × Decoder :=
  scan [] d.lines d.size d.buffer

def nextPayload (d : Decoder) : Except EventError (Option Payload) × Decoder :=
  match d.next with
  | (.ok (some data), d) =>
    match Json.readText Payload.reader data with
    | .ok p => (.ok (some p), d)
    | .error e => (.error (.notPayload e), d)
  | (.ok none, d) => (.ok none, d)
  | (.error e, d) => (.error e, d)

/-- All that a step yields until it yields nothing; errors do not stop it. -/
def drainWith {α : Type} (step : Decoder → Except EventError (Option α) × Decoder) :
    Nat → Decoder → List (Except EventError α) × Decoder
  | 0, d => ([], d)
  | fuel + 1, d =>
    match step d with
    | (.ok none, d) => ([], d)
    | (.ok (some a), d) =>
      let (more, d) := drainWith step fuel d
      (.ok a :: more, d)
    | (.error e, d) =>
      let (more, d) := drainWith step fuel d
      (.error e :: more, d)

def resultBound (d : Decoder) : Nat :=
  d.buffer.count lineFeed + 2

def drain (d : Decoder) : List (Except EventError String) × Decoder :=
  drainWith next d.resultBound d

def drainPayloads (d : Decoder) : List (Except EventError Payload) × Decoder :=
  drainWith nextPayload d.resultBound d

def decodeChunks {α : Type} (drain : Decoder → List (Except EventError α) × Decoder) (d : Decoder) :
    List (List UInt8) → List (List (Except EventError α))
  | [] => []
  | chunk :: rest =>
    let (results, d) := drain (d.extend chunk)
    results :: decodeChunks drain d rest

end Decoder

end FleetControl.Telemetry
