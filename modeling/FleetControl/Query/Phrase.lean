import FleetControl.Query.Scan

namespace FleetControl

namespace Text

/-- The simple case folding of a character, as far as it leads to a letter from `a` to `z`. Besides the
capitals, the long s and the sign for kelvin have such a folding. -/
def folded (c : Char) : Char :=
  if c = '\u017f' then 's' else if c = '\u212a' then 'k' else c.toLower

end Text

namespace Query

/-- A condition on a stretch of text: the first text stands before it, the last one behind it. -/
abbrev Phrase := List Char → List Char → List Char → Prop

namespace Phrase

def mark (s : String) : Phrase := fun _ run _ => run = s.toList

def letters (word : String) : Phrase := fun _ run _ =>
  run.map Text.folded = word.toList.map Text.folded

/-- The boundary of a word: there is a word character on just one side of it. -/
def boundary : Phrase := fun before run behind =>
  run = [] ∧ before.getLast?.any Text.isWord ≠ behind.head?.any Text.isWord

def anyOf (p : Char → Bool) : Phrase := fun _ run _ => ∀ c ∈ run, p c = true

def someOf (p : Char → Bool) : Phrase := fun _ run _ => run ≠ [] ∧ ∀ c ∈ run, p c = true

def inTurn : List Phrase → Phrase
  | [] => fun _ run _ => run = []
  | p :: rest => fun before run behind =>
    ∃ first last, run = first ++ last ∧ p before first (last ++ behind) ∧
      inTurn rest (before ++ first) last behind

def oneOf (phrases : List Phrase) : Phrase := fun before run behind =>
  ∃ p ∈ phrases, p before run behind

def perhaps (phrases : List Phrase) : Phrase := oneOf [inTurn [], inTurn phrases]

def word (s : String) : Phrase := inTurn [boundary, letters s, boundary]

def spaces : Phrase := anyOf Text.isBlank

def blanks : Phrase := someOf Text.isBlank

def digits : Phrase := someOf Text.isDigit

def equals : Phrase := inTurn [spaces, mark "=", spaces]

def quoted (quote : Char) : Phrase :=
  inTurn [mark (String.singleton quote), anyOf (· != quote), mark (String.singleton quote)]

def alwaysHolds : Phrase :=
  oneOf
    [inTurn [letters "TRUE", boundary],
      inTurn [letters "NOT", blanks, letters "FALSE", boundary],
      inTurn [digits, equals, digits],
      inTurn [quoted '\'', equals, quoted '\''],
      inTurn [quoted '"', equals, quoted '"']]

def Begins (p : Phrase) (before text : List Char) : Prop :=
  ∃ run behind, text = run ++ behind ∧ p before run behind

def StandsIn (p : Phrase) (text : List Char) : Prop :=
  ∃ before rest, text = before ++ rest ∧ p.Begins before rest

end Phrase

namespace Scan

open Phrase

def Pattern.phrase : Pattern → Phrase
  | .separator => mark ";"
  | .comment => oneOf [mark "--", mark "/*", mark "*/"]
  | .tautology => inTurn [boundary, letters "OR", blanks, alwaysHolds]
  | .union =>
    inTurn
      [boundary, letters "UNION", blanks, perhaps [letters "ALL", blanks], letters "SELECT", boundary]
  | .insert => word "INSERT"
  | .update => word "UPDATE"
  | .delete => word "DELETE"
  | .drop => word "DROP"

def selection : Phrase := inTurn [spaces, letters "SELECT", boundary]

end Scan

end Query

end FleetControl
