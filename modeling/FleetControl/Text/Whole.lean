namespace FleetControl.Text

inductive WholeProblem where
  | empty
  | digit
  | tooLarge
  | tooSmall
deriving DecidableEq

def WholeProblem.message : WholeProblem → String
  | .empty => "cannot parse integer from empty string"
  | .digit => "invalid digit found in string"
  | .tooLarge => "number too large to fit in target type"
  | .tooSmall => "number too small to fit in target type"

/-- The number that digits tell after those that told `n`, no greater than a bound. -/
def digitsUpTo (bound n : Nat) : List Char → Except WholeProblem Nat
  | [] => .ok n
  | c :: rest =>
    if !c.isDigit then .error .digit
    else
      let next := n * 10 + (c.toNat - '0'.toNat)
      if bound < next then .error .tooLarge else digitsUpTo bound next rest

def someDigitsUpTo (bound : Nat) (cs : List Char) : Except WholeProblem Nat :=
  if cs.isEmpty then .error .digit else digitsUpTo bound 0 cs

def natUpTo (bound : Nat) (s : String) : Except WholeProblem Nat :=
  match s.toList with
  | [] => .error .empty
  | '+' :: cs => someDigitsUpTo bound cs
  | cs => someDigitsUpTo bound cs

def intUpTo (bound : Nat) (s : String) : Except WholeProblem Int :=
  match s.toList with
  | [] => .error .empty
  | '+' :: cs => (someDigitsUpTo bound cs).map Int.ofNat
  | '-' :: cs =>
    match someDigitsUpTo (bound + 1) cs with
    | .ok n => .ok (-n)
    | .error .tooLarge => .error .tooSmall
    | .error e => .error e
  | cs => (someDigitsUpTo bound cs).map Int.ofNat

end FleetControl.Text
