import FleetControl.Json.Draft

namespace FleetControl.Json

def within : Nat → Json → Bool
  | 0, .list _ | 0, .object _ => false
  | k + 1, .list items => items.all (within k)
  | k + 1, .object fields => fields.all fun field => within k field.2
  | _, _ => true

/-- The same of a draft, of which the parts that are too deep do not count. -/
def Draft.within : Nat → Draft → Bool
  | 0, .list _ _ | 0, .object _ _ => false
  | k + 1, .list items _ => items.all (within k)
  | k + 1, .object entries _ => entries.all fun entry => within k entry.2
  | _, _ => true

def isNull : Json → Bool
  | .null => true
  | _ => false

mutual

/-- Whether each object has its keys in rising order, as values held in memory have. -/
def inOrder : Json → Bool
  | .list items => itemsInOrder items
  | .object fields => fieldsInOrder fields
  | _ => true

def itemsInOrder : List Json → Bool
  | [] => true
  | item :: rest => inOrder item && itemsInOrder rest

def fieldsInOrder : List (String × Json) → Bool
  | [] => true
  | (key, value) :: rest =>
    (rest.all fun field => key < field.1) && inOrder value && fieldsInOrder rest

end

mutual

def numbers : Json → List Number
  | .number n => [n]
  | .list items => itemsNumbers items
  | .object fields => fieldsNumbers fields
  | _ => []

def itemsNumbers : List Json → List Number
  | [] => []
  | item :: rest => numbers item ++ itemsNumbers rest

def fieldsNumbers : List (String × Json) → List Number
  | [] => []
  | (_, value) :: rest => numbers value ++ fieldsNumbers rest

end

/-- Whether a number is read back from the text that is written for it. -/
def Number.survives (n : Number) : Bool :=
  match parse n.render with
  | .ok (.number m) => m = n
  | _ => false

end FleetControl.Json
