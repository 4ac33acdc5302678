import FleetControl.Json.Shape

namespace FleetControl.Json

def scanTagged {α : Type} (tag : String) (variants : List (String × α)) (source : Source)
    (fault : Option Broken) :
    Option α → List (String × Draft) → Except ReadError α
  | chosen, [] =>
    match fault, chosen with
    | some b, _ => .error (.fault b.reading)
    | none, some a => .ok a
    | none, none => .error (.missingField tag)
  | chosen, (key, d) :: rest =>
    if key = tag then
      if chosen.isSome then .error (.duplicateField tag)
      else
        match Reader.variantName variants source d with
        | .error e => .error e
        | .ok a => scanTagged tag variants source fault (some a) rest
    else
      match Reader.setAside d with
      | .error e => .error e
      | .ok _ => scanTagged tag variants source fault chosen rest

/-- One of several records, told apart by the field `tag`. -/
def Reader.tagged {α : Type} (tag name : String) (variants : List (String × Reader α)) : Reader α
  | source, .object entries fault =>
    match scanTagged tag variants source fault none entries with
    | .error e => .error e
    | .ok r => r .aside (.object (entries.filter fun (key, _) => key ≠ tag) none)
  | source, .list ds fault =>
    match ds with
    | [] =>
      match fault with
      | none => .error (.missingField tag)
      | some b => .error (.fault b.reading)
    | d :: rest =>
      match variantName variants source d with
      | .error e => .error e
      | .ok r =>
        match items (fun _ d => setAside d) source fault rest with
        | .error e => .error e
        | .ok rest => r .aside (.list rest none)
  | _, .deep _ => .error (.fault .tooDeep)
  | _, d => mismatch ("internally tagged enum " ++ name) d

/-- What a choice holds whose value stands under a key of its own. -/
inductive Content (α : Type) where
  | alone (a : α) (title : String)
  | holding (r : Reader α)

namespace Content

def reader {α : Type} : Content α → Reader α
  | .alone a title => fun _ d =>
    match d with
    | .null => .ok a
    | d => Reader.mismatch ("unit variant " ++ title) d
  | .holding r => r

def withoutValue {α : Type} (key : String) : Content α → Except ReadError α
  | .alone a _ => .ok a
  | .holding _ => .error (.missingField key)

end Content

inductive Choosing (α : Type) where
  | nothing
  | value (d : Draft)
  | tag (c : Content α)
  | both (a : α)

/-- Reads the entries of an object that tell a choice under `tag` and its value under `key`; other
entries are passed over. -/
def scanChoice {α : Type} (tag key : String) (variants : List (String × Content α))
    (source : Source) (fault : Option Broken) :
    Choosing α → List (String × Draft) → Except ReadError α
  | known, [] =>
    match fault, known with
    | some b, _ => .error (.fault b.reading)
    | none, .both a => .ok a
    | none, .tag c => c.withoutValue key
    | none, _ => .error (.missingField tag)
  | known, (name, d) :: rest =>
    if name = tag then
      match known with
      | .tag _ | .both _ => .error (.duplicateField tag)
      | .nothing | .value _ =>
        match Reader.variant variants source d with
        | .error e => .error e
        | .ok c =>
          match known with
          | .value d =>
            match c.reader .aside d with
            | .error e => .error e
            | .ok a => scanChoice tag key variants source fault (.both a) rest
          | _ => scanChoice tag key variants source fault (.tag c) rest
    else if name = key then
      match known with
      | .value _ | .both _ => .error (.duplicateField key)
      | .tag c =>
        match c.reader source d with
        | .error e => .error e
        | .ok a => scanChoice tag key variants source fault (.both a) rest
      | .nothing =>
        match Reader.setAside d with
        | .error e => .error e
        | .ok d => scanChoice tag key variants source fault (.value d) rest
    else
      match Record.passOver d with
      | .error e => .error e
      | .ok _ => scanChoice tag key variants source fault known rest

/-- One of several values, told by a tag and a value under a key, or by a list of the two. -/
def Reader.beside {α : Type} (tag key name : String) (variants : List (String × Content α)) :
    Reader α
  | source, .object entries fault => scanChoice tag key variants source fault .nothing entries
  | source, .list ds fault =>
    let tooShort (n : Nat) : Except ReadError α :=
      match fault with
      | none => .error (.wrongLength n ("adjacently tagged enum " ++ name))
      | some b => .error (.fault b.reading)
    match ds with
    | [] => tooShort 0
    | d :: rest =>
      match variantName variants source d with
      | .error e => .error e
      | .ok c =>
        match rest with
        | [] => tooShort 1
        | d :: rest =>
          match c.reader source d with
          | .error e => .error e
          | .ok a => (noSurplus source 2 rest fault).map fun _ => a
  | _, .deep _ => .error (.fault .tooDeep)
  | _, d => mismatch ("adjacently tagged enum " ++ name) d

end FleetControl.Json
