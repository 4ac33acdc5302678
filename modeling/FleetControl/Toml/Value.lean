namespace FleetControl.Toml

/-- A value. The entries of a table stand in the order of the document, each key once. -/
inductive Value where
  | text (s : String)
  | int (n : Int)
  | double (x : Float)
  | bool (b : Bool)
  /-- A date, a time of day or both, as they are written. -/
  | moment (s : String)
  | list (items : List Value)
  | table (entries : List (String × Value))
deriving Inhabited

/-- Where reading a document stopped, told by the count of the characters left, and why. -/
structure Stop where
  left : Nat
  reason : String

def stopAt {α : Type} (cs : List Char) (reason : String) : Except Stop α :=
  .error ⟨cs.length, reason⟩

def isBlank (c : Char) : Bool := c == ' ' || c == '\t'

def skipBlanks (cs : List Char) : List Char := cs.dropWhile isBlank

end FleetControl.Toml
