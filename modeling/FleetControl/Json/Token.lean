import FleetControl.Decimal.Reading
import FleetControl.Json.Basic
import FleetControl.Text.Hex

namespace FleetControl.Json

inductive Fault where
  | endInList
  | endInObject
  | endInText
  | endInValue
  | expectedColon
  | expectedListEnd
  | expectedObjectEnd
  | expectedWord
  | expectedValue
  | invalidEscape
  | invalidNumber
  | numberOutOfRange
  | controlCharacter
  | keyNotText
  | loneSurrogate
  | surrogateUnfinished
  | trailingComma
  | trailingCharacters
  | tooDeep
deriving DecidableEq

def Fault.message : Fault → String
  | .endInList => "EOF while parsing a list"
  | .endInObject => "EOF while parsing an object"
  | .endInText => "EOF while parsing a string"
  | .endInValue => "EOF while parsing a value"
  | .expectedColon => "expected `:`"
  | .expectedListEnd => "expected `,` or `]`"
  | .expectedObjectEnd => "expected `,` or `\x7d`"
  | .expectedWord => "expected ident"
  | .expectedValue => "expected value"
  | .invalidEscape => "invalid escape"
  | .invalidNumber => "invalid number"
  | .numberOutOfRange => "number out of range"
  | .controlCharacter => "control character (\\u0000-\\u001F) found while parsing a string"
  | .keyNotText => "key must be a string"
  | .loneSurrogate => "lone leading surrogate in hex escape"
  | .surrogateUnfinished => "unexpected end of hex escape"
  | .trailingComma => "trailing comma"
  | .trailingCharacters => "trailing characters"
  | .tooDeep => "recursion limit exceeded"

/-- A fault as it is told to one who reads the value, and to one who skips it. -/
structure Broken where
  reading : Fault
  skipping : Fault

def Broken.same (f : Fault) : Broken := ⟨f, f⟩

inductive Kind where
  | text
  | number
  | word
  | nothing
deriving DecidableEq

/-- A literal may be wrong in two degrees: its form may be broken, so that nothing can be read past it, or
it has the right form and stands for no value. One who skips a value minds the first only. -/
inductive Literal where
  | null
  | bool (b : Bool)
  | number (n : Number)
  | text (s : String)
  /-- Of the right form, without a value. -/
  | valueless (f : Fault) (kind : Kind)
  | broken (b : Broken) (kind : Kind)

inductive Token where
  | openList
  | closeList
  | openObject
  | closeObject
  | comma
  | colon
  | literal (l : Literal)
  | stray

def isSpace (c : Char) : Bool :=
  c == ' ' || c == '\n' || c == '\t' || c == '\r'

/-- The unit that four hexadecimal digits name, and what follows. The text ends too early when fewer
than four bytes are left. -/
def hexUnit (cs : List Char) : Except Fault (Nat × List Char) :=
  match cs with
  | a :: b :: c :: d :: rest =>
    match Text.hexDigit? a, Text.hexDigit? b, Text.hexDigit? c, Text.hexDigit? d with
    | some a, some b, some c, some d => .ok (((a * 16 + b) * 16 + c) * 16 + d, rest)
    | _, _, _, _ => .error .invalidEscape
  | _ => .error (if (String.ofList cs).utf8ByteSize < 4 then .endInText else .invalidEscape)

def simpleEscape? : Char → Option Char
  | '"' => some '"'
  | '\\' => some '\\'
  | '/' => some '/'
  | 'b' => some '\x08'
  | 'f' => some '\x0c'
  | 'n' => some '\n'
  | 'r' => some '\r'
  | 't' => some '\t'
  | _ => none

/-- The character that `\u` escapes name, and what follows. Two surrogates make one character. -/
def unicodeEscape (cs : List Char) : Except Fault (Char × List Char) := do
  let (unit, rest) ← hexUnit cs
  if 0xDC00 ≤ unit && unit ≤ 0xDFFF then .error .loneSurrogate
  else if unit < 0xD800 || 0xDBFF < unit then .ok (Char.ofNat unit, rest)
  else
    match rest with
    | [] => .error .endInText
    | '\\' :: [] => .error .endInText
    | '\\' :: 'u' :: rest =>
      let (second, rest) ← hexUnit rest
      if 0xDC00 ≤ second && second ≤ 0xDFFF then
        .ok (Char.ofNat (0x10000 + (unit - 0xD800) * 0x400 + (second - 0xDC00)), rest)
      else .error .loneSurrogate
    | _ => .error .surrogateUnfinished

/-- The text up to the closing quote, and what follows it; `fuel` bounds the characters read. -/
def unquote (read : List Char) : Nat → List Char → Except Fault (List Char × List Char)
  | 0, _ => .error .endInText
  | _ + 1, [] => .error .endInText
  | fuel + 1, c :: rest =>
    if c == '"' then .ok (read.reverse, rest)
    else if c == '\\' then
      match rest with
      | [] => .error .endInText
      | 'u' :: rest =>
        match unicodeEscape rest with
        | .error f => .error f
        | .ok (named, rest) => unquote (named :: read) fuel rest
      | e :: rest =>
        match simpleEscape? e with
        | some named => unquote (named :: read) fuel rest
        | none => .error .invalidEscape
    else if c.toNat < 0x20 then .error .controlCharacter
    else unquote (c :: read) fuel rest

def skipText : Nat → List Char → Except Fault (List Char)
  | 0, _ => .error .endInText
  | _ + 1, [] => .error .endInText
  | fuel + 1, c :: rest =>
    if c == '"' then .ok rest
    else if c == '\\' then
      match rest with
      | [] => .error .endInText
      | 'u' :: rest =>
        match hexUnit rest with
        | .error f => .error f
        | .ok (_, rest) => skipText fuel rest
      | e :: rest =>
        match simpleEscape? e with
        | some _ => skipText fuel rest
        | none => .error .invalidEscape
    else if c.toNat < 0x20 then .error .controlCharacter
    else skipText fuel rest

def textLiteral (fuel : Nat) (cs : List Char) : Literal × List Char :=
  match unquote [] (fuel + 1) cs with
  | .ok (s, rest) => (.text (String.ofList s), rest)
  | .error f =>
    match skipText (fuel + 1) cs with
    | .ok rest => (.valueless f .text, rest)
    | .error g => (.broken ⟨f, g⟩ .text, [])

def spanDigits (cs : List Char) : List Char × List Char :=
  cs.span Char.isDigit

/-- A number without fraction and exponent: an integer where 64 bits hold it, else a double. -/
def wholeNumber (negative : Bool) (n : Nat) : Number :=
  if negative then
    if 0 < n && n ≤ 9223372036854775808 then .int (-n) else .double (Decimal.toDouble true n 0)
  else if n < UInt64.size then .int n
  else .double (Decimal.toDouble false n 0)

def numberLiteral (n : Number) : Literal :=
  match n with
  | .double x => if x.isFinite then .number n else .valueless .numberOutOfRange .number
  | .int _ => .number n

def unfinishedNumber (rest : List Char) : Literal :=
  .broken ⟨if rest.isEmpty then .endInValue else .invalidNumber, .invalidNumber⟩ .number

def exponentDigits (negative : Bool) (digits : List Char) (scale : Nat) (minus : Bool)
    (cs : List Char) : Literal × List Char :=
  let (exponent, rest) := spanDigits cs
  if exponent.isEmpty then (unfinishedNumber rest, [])
  else
    let size := Decimal.natOfDigits exponent
    let power : Int := (if minus then -(size : Int) else size) - scale
    (numberLiteral (.double (Decimal.toDouble negative (Decimal.natOfDigits digits) power)), rest)

def exponentLiteral (negative : Bool) (digits : List Char) (scale : Nat) (cs : List Char) :
    Literal × List Char :=
  match cs with
  | '+' :: rest => exponentDigits negative digits scale false rest
  | '-' :: rest => exponentDigits negative digits scale true rest
  | _ => exponentDigits negative digits scale false cs

def scaledLiteral (negative : Bool) (digits : List Char) (scale : Nat) (plain : Number)
    (cs : List Char) : Literal × List Char :=
  match cs with
  | 'e' :: rest | 'E' :: rest => exponentLiteral negative digits scale rest
  | _ => (numberLiteral plain, cs)

def fractionLiteral (negative : Bool) (whole : List Char) (cs : List Char) : Literal × List Char :=
  let (fraction, rest) := spanDigits cs
  if fraction.isEmpty then (unfinishedNumber rest, [])
  else
    let digits := whole ++ fraction
    let n := Decimal.natOfDigits digits
    scaledLiteral negative digits fraction.length
      (.double (Decimal.toDouble negative n (-(fraction.length : Int)))) rest

def wholeLiteral (negative : Bool) (whole : List Char) (cs : List Char) : Literal × List Char :=
  match cs with
  | '.' :: rest => fractionLiteral negative whole rest
  | _ => scaledLiteral negative whole 0 (wholeNumber negative (Decimal.natOfDigits whole)) cs

def unsignedLiteral (negative : Bool) (cs : List Char) : Literal × List Char :=
  let (whole, rest) := spanDigits cs
  match whole with
  | [] => (unfinishedNumber rest, [])
  | '0' :: _ :: _ => (.broken (.same .invalidNumber) .number, [])
  | _ => wholeLiteral negative whole rest

def wordLiteral (value : Literal) : List Char → List Char → Literal × List Char
  | [], rest => (value, rest)
  | _ :: _, [] => (.broken (.same .endInValue) .word, [])
  | w :: word, c :: rest =>
    if w == c then wordLiteral value word rest else (.broken (.same .expectedWord) .word, [])

def tokenAt (fuel : Nat) (c : Char) (rest : List Char) : Token × List Char :=
  match c with
  | '[' => (.openList, rest)
  | ']' => (.closeList, rest)
  | '\x7b' => (.openObject, rest)
  | '\x7d' => (.closeObject, rest)
  | ',' => (.comma, rest)
  | ':' => (.colon, rest)
  | '"' => let (l, rest) := textLiteral fuel rest; (.literal l, rest)
  | 'n' => let (l, rest) := wordLiteral .null ['u', 'l', 'l'] rest; (.literal l, rest)
  | 't' => let (l, rest) := wordLiteral (.bool true) ['r', 'u', 'e'] rest; (.literal l, rest)
  | 'f' => let (l, rest) := wordLiteral (.bool false) ['a', 'l', 's', 'e'] rest; (.literal l, rest)
  | '-' => let (l, rest) := unsignedLiteral true rest; (.literal l, rest)
  | _ =>
    if c.isDigit then let (l, rest) := unsignedLiteral false (c :: rest); (.literal l, rest)
    else (.stray, [])

/-- The tokens of a text; `fuel` is no less than the count of its characters, so it also bounds the
number of tokens. -/
def tokensWithin : Nat → List Char → List Token
  | 0, _ => []
  | fuel + 1, cs =>
    match cs.dropWhile isSpace with
    | [] => []
    | c :: rest =>
      let (token, rest) := tokenAt fuel c rest
      token :: tokensWithin fuel rest

def tokens (text : String) : List Token :=
  let cs := text.toList
  tokensWithin cs.length cs

end FleetControl.Json
