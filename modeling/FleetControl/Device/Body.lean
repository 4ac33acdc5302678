import FleetControl.Device.Client

namespace FleetControl.Device

/-- A body: what its connection has still to bring, chunks or an error, and what was read of it. -/
structure Body where
  source : List (Except String (List UInt8))
  decoder : Telemetry.Decoder
  finished : Bool

namespace Body

def poll (d : Telemetry.Decoder) (source : List (Except String (List UInt8))) :
    Option Item × Body :=
  match d.nextPayload with
  | (.ok (some p), d) => (some (.ok p), ⟨source, d, false⟩)
  | (.error e, d) => (some (.error (.stream e)), ⟨source, d, false⟩)
  | (.ok none, d) =>
    match source with
    | [] => (none, ⟨[], d, true⟩)
    | .ok chunk :: rest => poll (d.extend chunk) rest
    | .error e :: rest => (some (.error (.transport e)), ⟨rest, d, true⟩)

def next (b : Body) : Option Item × Body :=
  if b.finished then (none, b) else poll b.decoder b.source

inductive Gives : Body → List Item → Body → Prop where
  | nil (b : Body) : Gives b [] b
  | cons {b b' b'' : Body} {item : Item} {items : List Item} :
    b.next = (some item, b') → Gives b' items b'' → Gives b (item :: items) b''

def Yields (b : Body) (items : List Item) : Prop :=
  ∃ b', b.Gives items b' ∧ b'.next.1 = none

def sourceOf (chunks : List (List UInt8)) (failure : Option String)
    (more : List (Except String (List UInt8))) : List (Except String (List UInt8)) :=
  chunks.map .ok ++
    match failure with
    | none => []
    | some e => .error e :: more

def new (source : List (Except String (List UInt8))) : Body := ⟨source, .empty, false⟩

end Body

end FleetControl.Device
