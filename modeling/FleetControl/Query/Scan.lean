import FleetControl.Query.Compile
import FleetControl.Text.Word

namespace FleetControl.Query.Scan

/-- Whether a character stands for a capital letter, in either case. The long s counts as an s. -/
def isLetter (capital c : Char) : Bool :=
  c.toUpper == capital || (capital == 'S' && c == '\u017f')

def letters? : List Char → List Char → Option (List Char)
  | [], cs => some cs
  | _ :: _, [] => none
  | w :: word, c :: rest => if isLetter w c then letters? word rest else none

def endsWord (cs : List Char) : Bool :=
  match cs with
  | [] => true
  | c :: _ => !Text.isWord c

def word? (word : List Char) (cs : List Char) : Option (List Char) :=
  (letters? word cs).filter endsWord

def blanks? (cs : List Char) : Option (List Char) :=
  match cs with
  | [] => none
  | c :: rest => if Text.isBlank c then some (rest.dropWhile Text.isBlank) else none

def digits? (cs : List Char) : Option (List Char) :=
  match cs with
  | [] => none
  | c :: rest => if Text.isDigit c then some (rest.dropWhile Text.isDigit) else none

def equals? (cs : List Char) : Option (List Char) :=
  match cs.dropWhile Text.isBlank with
  | '=' :: rest => some (rest.dropWhile Text.isBlank)
  | _ => none

def quoted? (quote : Char) (cs : List Char) : Option (List Char) :=
  match cs with
  | [] => none
  | c :: rest =>
    if c == quote then
      match rest.dropWhile (· != quote) with
      | [] => none
      | _ :: after => some after
    else none

def isTautology (cs : List Char) : Bool :=
  (word? "TRUE".toList cs).isSome
    || ((letters? "NOT".toList cs).bind blanks?).any (fun cs => (word? "FALSE".toList cs).isSome)
    || ((digits? cs).bind equals?).any (fun cs => (digits? cs).isSome)
    || ((quoted? '\'' cs).bind equals?).any (fun cs => (quoted? '\'' cs).isSome)
    || ((quoted? '"' cs).bind equals?).any (fun cs => (quoted? '"' cs).isSome)

def isOrTautology (cs : List Char) : Bool :=
  ((letters? "OR".toList cs).bind blanks?).any isTautology

def isUnionSelect (cs : List Char) : Bool :=
  ((letters? "UNION".toList cs).bind blanks?).any fun cs =>
    (word? "SELECT".toList cs).isSome
      || ((letters? "ALL".toList cs).bind blanks?).any fun cs => (word? "SELECT".toList cs).isSome

inductive Pattern where
  | separator
  | comment
  | tautology
  | union
  | insert
  | update
  | delete
  | drop
deriving DecidableEq

namespace Pattern

def all : List Pattern :=
  [.separator, .comment, .tautology, .union, .insert, .update, .delete, .drop]

def name : Pattern → String
  | .separator => "statement separator ';'"
  | .comment => "SQL comment"
  | .tautology => "OR tautology"
  | .union => "UNION SELECT"
  | .insert => "INSERT"
  | .update => "UPDATE"
  | .delete => "DELETE"
  | .drop => "DROP"

def startsAt (p : Pattern) (before : Option Char) (cs : List Char) : Bool :=
  let atWord := !before.any Text.isWord
  match p with
  | .separator => cs.head? == some ';'
  | .comment =>
    match cs with
    | '-' :: '-' :: _ | '/' :: '*' :: _ | '*' :: '/' :: _ => true
    | _ => false
  | .tautology => atWord && isOrTautology cs
  | .union => atWord && isUnionSelect cs
  | .insert => atWord && (word? "INSERT".toList cs).isSome
  | .update => atWord && (word? "UPDATE".toList cs).isSome
  | .delete => atWord && (word? "DELETE".toList cs).isSome
  | .drop => atWord && (word? "DROP".toList cs).isSome

def occursAfter (p : Pattern) (before : Option Char) : List Char → Bool
  | [] => p.startsAt before []
  | c :: rest => p.startsAt before (c :: rest) || occursAfter p (some c) rest

def occursIn (p : Pattern) (cs : List Char) : Bool := p.occursAfter none cs

end Pattern

def selects (cs : List Char) : Bool :=
  (word? "SELECT".toList (cs.dropWhile Text.isBlank)).isSome

def checkStatement (statement : String) : Except Refusal Unit :=
  let cs := statement.toList
  match Pattern.all.find? fun p => p.occursIn cs with
  | some p => .error (.pattern p.name)
  | none => if selects cs then .ok () else .error .notSelect

def check (table statement : String) : Except Refusal Unit :=
  match Table.find? table with
  | none => .error (.table table)
  | some _ => checkStatement statement

end FleetControl.Query.Scan

namespace FleetControl.Query

def Compiled.check (q : Compiled) : Except Refusal Unit :=
  Scan.check q.table q.statement

end FleetControl.Query
