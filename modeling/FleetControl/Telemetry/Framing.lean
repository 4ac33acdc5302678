import FleetControl.Telemetry.Decoder

namespace FleetControl.Telemetry

inductive Frame where
  | event (data : String)
  | comment (text : String)
  | fields (lines : List String)

namespace Frame

/-- The text of an event: a line of the field `data` for each of its lines, and an empty line. -/
def eventLines (data : String) : List String :=
  (data.toList.splitOn '\n').map (fun line => "data: " ++ String.ofList line) ++ [""]

def lines : Frame → List String
  | .event data => eventLines data
  | .comment text => [":" ++ text]
  | .fields lines => lines ++ [""]

def data? : Frame → Option String
  | .event data => some data
  | .comment _ => none
  | .fields _ => none

end Frame

def linesSize : List String → Nat
  | [] => 0
  | line :: rest => line.utf8ByteSize + 1 + linesSize rest

def fieldName (line : String) : List Char := line.toList.takeWhile (· != ':')

def IsOtherField (line : String) : Prop :=
  line ≠ "" ∧ '\n' ∉ line.toList ∧ fieldName line ≠ "data".toList

instance (line : String) : Decidable (IsOtherField line) :=
  inferInstanceAs (Decidable (_ ∧ _ ∧ _))

/-- Whether a frame can be written in its lines: an event may not be too large, a comment is one line,
and a block holds lines of other fields. -/
def Frame.IsSound : Frame → Prop
  | .event data => linesSize (eventLines data) ≤ maxEventSize
  | .comment text => '\n' ∉ text.toList
  | .fields lines => ∀ line ∈ lines, IsOtherField line

instance (f : Frame) : Decidable f.IsSound :=
  match f with
  | .event data => inferInstanceAs (Decidable (linesSize (Frame.eventLines data) ≤ maxEventSize))
  | .comment text => inferInstanceAs (Decidable ('\n' ∉ text.toList))
  | .fields lines => inferInstanceAs (Decidable (∀ line ∈ lines, IsOtherField line))

inductive LineEnd where
  | feed
  | returnFeed
deriving DecidableEq

structure EndedLine where
  text : String
  ending : LineEnd

namespace EndedLine

def raw (l : EndedLine) : List UInt8 :=
  match l.ending with
  | .feed => Text.encode l.text
  | .returnFeed => Text.encode l.text ++ [carriageReturn]

def bytes (l : EndedLine) : List UInt8 := l.raw ++ [lineFeed]

/-- Whether the line ends where its line end begins. A line feed behind a carriage return makes one line
end with it. -/
def IsClear (l : EndedLine) : Prop :=
  l.ending = .feed → l.text.toList.getLast? ≠ some '\r'

instance (l : EndedLine) : Decidable l.IsClear :=
  inferInstanceAs (Decidable (_ → _))

end EndedLine

end FleetControl.Telemetry
