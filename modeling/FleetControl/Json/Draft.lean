import FleetControl.Json.Token

namespace FleetControl

def Json.maxDepth : Nat := 128

/-- JSON text as far as it could be read: a tree whose leaves and list ends may be faults. A reader of a
shape walks it in text order and so meets the first problem of the text first, be it a fault or a value
of the wrong kind. -/
inductive Json.Draft where
  | null
  | bool (b : Bool)
  | number (n : Json.Number)
  | text (s : String)
  | list (items : List Json.Draft) (fault : Option Json.Broken)
  | object (entries : List (String × Json.Draft)) (fault : Option Json.Broken)
  /-- A literal of the right form that stands for no value. -/
  | valueless (f : Json.Fault) (kind : Json.Kind)
  | deep (inner : Json.Draft)
  | broken (b : Json.Broken) (kind : Json.Kind)
deriving Inhabited

namespace Json

mutual

def draft : Json → Draft
  | .null => .null
  | .bool b => .bool b
  | .number n => .number n
  | .text s => .text s
  | .list items => .list (draftItems items) none
  | .object fields => .object (draftFields fields) none

def draftItems : List Json → List Draft
  | [] => []
  | item :: rest => draft item :: draftItems rest

def draftFields : List (String × Json) → List (String × Draft)
  | [] => []
  | (key, value) :: rest => (key, draft value) :: draftFields rest

end

namespace Draft

inductive Frame where
  | list (items : List Draft)
  | object (entries : List (String × Draft)) (key : String)

inductive Expected where
  | value
  | item
  | nextItem
  | separator
  | key
  | nextKey
  | colon

def Frame.close (outer : List Frame) (fault : Option Broken) : Frame → Draft
  | .list items => nest (.list items.reverse fault)
  | .object entries _ => nest (.object entries.reverse fault)
where
  nest (d : Draft) : Draft := if (outer.drop (maxDepth - 2)).isEmpty then d else .deep d

def Frame.push (d : Draft) : Frame → Frame
  | .list items => .list (d :: items)
  | .object entries key => .object ((key, d) :: entries) key

/-- The whole draft, when reading stops inside the open containers with the draft `d` as their last
part. -/
def abandon (b : Broken) (d : Draft) : List Frame → Draft
  | [] => d
  | frame :: outer => abandon b ((frame.push d).close outer (some b)) outer

def stop (b : Broken) : List Frame → Draft
  | [] => .broken b .nothing
  | frame :: outer => abandon b (frame.close outer (some b)) outer

def atEnd : Expected → List Frame → Broken
  | .value, _ => .same .endInValue
  | .item, _ => .same .endInList
  | .nextItem, _ => .same .endInValue
  | .separator, .list _ :: _ => .same .endInList
  | .separator, _ => .same .endInObject
  | .key, _ => .same .endInObject
  | .nextKey, _ => ⟨.endInValue, .endInObject⟩
  | .colon, _ => .same .endInObject

structure Document where
  root : Draft
  surplus : Bool

def ofLiteral : Literal → Draft
  | .null => .null
  | .bool b => .bool b
  | .number n => .number n
  | .text s => .text s
  | .valueless f kind => .valueless f kind
  | .broken b kind => .broken b kind

inductive Progress where
  | inside (expected : Expected) (stack : List Frame)
  | complete (root : Draft)
  | stopped (root : Draft)

def place (d : Draft) : List Frame → Progress
  | [] => .complete d
  | frame :: outer => .inside .separator (frame.push d :: outer)

def onValue (token : Token) (otherwise : Broken) (stack : List Frame) : Progress :=
  match token with
  | .openList => .inside .item (.list [] :: stack)
  | .openObject => .inside .key (.object [] "" :: stack)
  | .literal l =>
    match l with
    | .broken b _ => .stopped (abandon b (ofLiteral l) stack)
    | _ => place (ofLiteral l) stack
  | _ => .stopped (abandon otherwise (.broken otherwise .nothing) stack)

def onClose : List Frame → Progress
  | [] => .stopped (.broken (.same .expectedValue) .nothing)
  | frame :: outer => place (frame.close outer none) outer

def onKey (token : Token) (otherwise : Broken) (stack : List Frame) : Progress :=
  match token, stack with
  | .literal (.text key), .object entries _ :: outer =>
    .inside .colon (.object entries key :: outer)
  | .literal (.valueless f .text), _ => .stopped (stop (.same f) stack)
  | .literal (.broken b .text), _ => .stopped (stop b stack)
  | _, _ => .stopped (stop otherwise stack)

def step (expected : Expected) (stack : List Frame) (token : Token) : Progress :=
  match expected, token with
  | .value, _ => onValue token (.same .expectedValue) stack
  | .item, .closeList => onClose stack
  | .item, _ => onValue token (.same .expectedValue) stack
  | .nextItem, .closeList => .stopped (stop ⟨.trailingComma, .expectedValue⟩ stack)
  | .nextItem, _ => onValue token (.same .expectedValue) stack
  | .key, .closeObject => onClose stack
  | .key, _ => onKey token (.same .keyNotText) stack
  | .nextKey, .closeObject => .stopped (stop ⟨.trailingComma, .keyNotText⟩ stack)
  | .nextKey, _ => onKey token (.same .keyNotText) stack
  | .colon, .colon => .inside .value stack
  | .colon, _ => .stopped (stop (.same .expectedColon) stack)
  | .separator, _ =>
    match stack, token with
    | .list _ :: _, .comma => .inside .nextItem stack
    | .list _ :: _, .closeList => onClose stack
    | .list _ :: _, _ => .stopped (stop (.same .expectedListEnd) stack)
    | .object _ _ :: _, .comma => .inside .nextKey stack
    | .object _ _ :: _, .closeObject => onClose stack
    | _, _ => .stopped (stop (.same .expectedObjectEnd) stack)

def readOn (expected : Expected) (stack : List Frame) : List Token → Document
  | [] =>
    let b := atEnd expected stack
    let root :=
      match expected with
      | .value | .nextItem => abandon b (.broken b .nothing) stack
      | _ => stop b stack
    ⟨root, false⟩
  | token :: rest =>
    match step expected stack token with
    | .inside expected stack => readOn expected stack rest
    | .complete root => ⟨root, !rest.isEmpty⟩
    | .stopped root => ⟨root, false⟩

def ofText (text : String) : Document :=
  readOn .value [] (tokens text)

mutual

def skipFault : Draft → Option Fault
  | .list items fault => (skipItemsFault items).or (fault.map Broken.skipping)
  | .object entries fault => (skipEntriesFault entries).or (fault.map Broken.skipping)
  | .deep inner => skipFault inner
  | .broken b _ => some b.skipping
  | _ => none

def skipItemsFault : List Draft → Option Fault
  | [] => none
  | item :: rest => (skipFault item).or (skipItemsFault rest)

def skipEntriesFault : List (String × Draft) → Option Fault
  | [] => none
  | (_, value) :: rest => (skipFault value).or (skipEntriesFault rest)

end

mutual

/-- The whole value that the draft holds, or the first fault in it. -/
def value : Draft → Except Fault Json
  | .null => .ok .null
  | .bool b => .ok (.bool b)
  | .number n => .ok (.number n)
  | .text s => .ok (.text s)
  | .list items fault =>
    match itemValues items, fault with
    | .error f, _ => .error f
    | .ok _, some b => .error b.reading
    | .ok values, none => .ok (.list values)
  | .object entries fault =>
    match entryValues entries, fault with
    | .error f, _ => .error f
    | .ok _, some b => .error b.reading
    | .ok values, none => .ok (.object (Fields.ofList values))
  | .valueless f _ => .error f
  | .deep _ => .error .tooDeep
  | .broken b _ => .error b.reading

def itemValues : List Draft → Except Fault (List Json)
  | [] => .ok []
  | item :: rest =>
    match value item with
    | .error f => .error f
    | .ok v => (itemValues rest).map (v :: ·)

def entryValues : List (String × Draft) → Except Fault (List (String × Json))
  | [] => .ok []
  | (key, item) :: rest =>
    match value item with
    | .error f => .error f
    | .ok v => (entryValues rest).map ((key, v) :: ·)

end

end Draft

def parse (text : String) : Except Fault Json :=
  let document := Draft.ofText text
  match document.root.value with
  | .error f => .error f
  | .ok v => if document.surplus then .error .trailingCharacters else .ok v

end Json

end FleetControl
