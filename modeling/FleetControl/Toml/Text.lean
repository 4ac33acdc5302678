import FleetControl.Text.Hex
import FleetControl.Toml.Value

namespace FleetControl.Toml

def codePoint (count : Nat) (cs : List Char) : Except Stop (Char × List Char) :=
  match (cs.take count).mapM Text.hexDigit? with
  | none => stopAt cs "invalid unicode value"
  | some digits =>
    let n := digits.foldl (fun n d => n * 16 + d) 0
    if digits.length = count ∧ n.isValidChar then .ok (Char.ofNat n, cs.drop count)
    else stopAt cs "invalid unicode value"

def simpleEscape? : Char → Option Char
  | 'b' => some '\x08'
  | 't' => some '\t'
  | 'n' => some '\n'
  | 'f' => some '\x0c'
  | 'r' => some '\r'
  | '"' => some '"'
  | '\\' => some '\\'
  | _ => none

def escape (cs : List Char) : Except Stop (Char × List Char) :=
  match cs with
  | 'u' :: rest => codePoint 4 rest
  | 'U' :: rest => codePoint 8 rest
  | c :: rest =>
    match simpleEscape? c with
    | some e => .ok (e, rest)
    | none => stopAt cs "invalid escape sequence"
  | [] => stopAt [] "invalid escape sequence"

def isPlain (c : Char) : Bool := c == '\t' || (0x20 ≤ c.toNat && c.toNat ≠ 0x7F)

/-- The characters of a text up to its closing quote, and what follows it. Escapes are read if
`escaped` holds. -/
def shortText (quote : Char) (escaped : Bool) : Nat → List Char → Except Stop (List Char × List Char)
  | 0, cs => stopAt cs "invalid string"
  | _ + 1, [] => stopAt [] "invalid string"
  | fuel + 1, c :: rest =>
    if c == quote then .ok ([], rest)
    else if c == '\\' && escaped then do
      let (e, rest) ← escape rest
      let (text, rest) ← shortText quote escaped fuel rest
      return (e :: text, rest)
    else if isPlain c then do
      let (text, rest) ← shortText quote escaped fuel rest
      return (c :: text, rest)
    else stopAt (c :: rest) "invalid string"

def lineEnd? : List Char → Option (List Char)
  | '\n' :: rest => some rest
  | '\r' :: '\n' :: rest => some rest
  | _ => none

def isSpace (c : Char) : Bool := isBlank c || c == '\n' || c == '\r'

/-- The characters of a text of several lines up to its closing quotes, and what follows them. Up to
two quotes more may stand before the closing ones. -/
def longText (quote : Char) (escaped : Bool) : Nat → List Char → Except Stop (List Char × List Char)
  | 0, cs => stopAt cs "invalid multi-line string"
  | _ + 1, [] => stopAt [] "invalid multi-line string"
  | fuel + 1, c :: rest =>
    let quotes := ((c :: rest).takeWhile (· == quote)).length
    if 3 ≤ quotes then
      let kept := min (quotes - 3) 2
      .ok (List.replicate kept quote, (c :: rest).drop (kept + 3))
    else
      match lineEnd? (c :: rest) with
      | some after => do
        let (text, after) ← longText quote escaped fuel after
        return ('\n' :: text, after)
      | none =>
        if c == '\\' && escaped then
          if (lineEnd? (skipBlanks rest)).isSome then
            longText quote escaped fuel (rest.dropWhile isSpace)
          else do
            let (e, rest) ← escape rest
            let (text, rest) ← longText quote escaped fuel rest
            return (e :: text, rest)
        else if isPlain c then do
          let (text, rest) ← longText quote escaped fuel rest
          return (c :: text, rest)
        else stopAt (c :: rest) "invalid multi-line string"

def quotedText (quote : Char) (cs : List Char) : Except Stop (String × List Char) :=
  let escaped := quote == '"'
  let fuel := cs.length + 1
  let parsed :=
    match cs with
    | _ :: b :: c :: rest =>
      if b == quote && c == quote then longText quote escaped fuel ((lineEnd? rest).getD rest)
      else shortText quote escaped fuel (b :: c :: rest)
    | _ :: rest => shortText quote escaped fuel rest
    | [] => stopAt [] "invalid string"
  parsed.map fun (text, rest) => (String.ofList text, rest)

end FleetControl.Toml
