import FleetControl.Proofs.Json.Given
import FleetControl.Proofs.Transit.Places

namespace FleetControl

open Json (Sendable Fields)
open Json.Record (reads_present reads_double? gives_perhaps gives_some)
open Json.Reader (takes_text takes_bool takes_natBelow takes_double takes_double_of_isFinite
  takes_instant takes_list takes_exactly takes_variant takes_option takes_fields takes_tagged
  gives_natBelow gives_fields gives_option gives_any?)
open Transit

namespace Query

namespace Position

variable {p : Position}

theorem sendable (h : Survive p.leaves) : Sendable 1 (Geometry.positionJson p) := by
  simp only [leaves, survive_cons, survives_double] at h
  refine .list ?_
  simp only [List.forall_mem_cons]
  exact ⟨.double h.1, .double h.2.1, List.forall_mem_nil _⟩

def Finite (p : Position) : Prop := p.longitude.isFinite = true ∧ p.latitude.isFinite = true

theorem finite_of_survive (h : Survive p.leaves) : p.Finite := by
  simp only [leaves, survive_cons, survives_double] at h
  exact ⟨Json.isFinite_of_survives h.1, Json.isFinite_of_survives h.2.1⟩

theorem inOrder_positionJson (p : Position) : (Geometry.positionJson p).inOrder = true := by
  refine Json.inOrder_list.mpr ?_
  simp only [List.forall_mem_cons]
  exact ⟨Json.inOrder_double _, Json.inOrder_double _, List.forall_mem_nil _⟩

theorem takes (h : p.Finite) : Geometry.positionReader.Takes (Geometry.positionJson p) p := by
  have hpair : (Json.Reader.exactly .double 2).Takes (Geometry.positionJson p)
      [p.longitude, p.latitude] := by
    change (Json.Reader.exactly .double 2).Takes
      (.list ([p.longitude, p.latitude].map .double)) [p.longitude, p.latitude]
    refine takes_exactly rfl ?_
    simp only [List.forall_mem_cons]
    exact ⟨takes_double_of_isFinite h.1, takes_double_of_isFinite h.2, List.forall_mem_nil _⟩
  intro source
  simp only [Geometry.positionReader, hpair source]

end Position

namespace Geometry

variable {g : Geometry}

theorem takes_box {low high : Position} (h : Survive (box low high).leaves) :
    boxReader.Takes
      (.list ([low.longitude, low.latitude, high.longitude, high.latitude].map .double))
      (box low high) := by
  simp only [leaves, Position.leaves, survive_append, survive_cons, survives_double] at h
  obtain ⟨⟨hwest, hsouth, -⟩, heast, hnorth, -⟩ := h
  have hfour : (Json.Reader.exactly .double 4).Takes
      (.list ([low.longitude, low.latitude, high.longitude, high.latitude].map .double))
      [low.longitude, low.latitude, high.longitude, high.latitude] := by
    refine takes_exactly rfl ?_
    simp only [List.forall_mem_cons]
    exact ⟨takes_double hwest, takes_double hsouth, takes_double heast, takes_double hnorth,
      List.forall_mem_nil _⟩
  intro source
  simp only [boxReader, hfour source]

theorem sendable (h : Survive g.leaves) : Sendable 4 g.toJson := by
  cases g with
  | point p =>
    refine .ofEntries ?_
    simp only [List.forall_mem_cons]
    exact ⟨.text _, (Position.sendable h).mono (by decide), List.forall_mem_nil _⟩
  | polygon rings =>
    simp only [leaves, survive_flatMap] at h
    refine .ofEntries ?_
    simp only [List.forall_mem_cons]
    refine ⟨.text _, .list fun v hv ↦ ?_, List.forall_mem_nil _⟩
    obtain ⟨ring, hring, rfl⟩ := List.mem_map.mp hv
    refine .list fun v hv ↦ ?_
    obtain ⟨p, hp, rfl⟩ := List.mem_map.mp hv
    exact Position.sendable (h ring hring p hp)
  | circle center radius =>
    simp only [leaves, survive_append, survive_cons, survives_double] at h
    refine .ofEntries ?_
    simp only [List.forall_mem_cons]
    exact ⟨.text _, (Position.sendable h.1).mono (by decide), .double h.2.1, List.forall_mem_nil _⟩
  | box low high =>
    simp only [leaves, Position.leaves, survive_append, survive_cons, survives_double] at h
    obtain ⟨⟨hwest, hsouth, -⟩, heast, hnorth, -⟩ := h
    refine .ofEntries ?_
    simp only [List.forall_mem_cons]
    refine ⟨.text _, .list ?_, List.forall_mem_nil _⟩
    simp only [List.map_cons, List.forall_mem_cons]
    exact ⟨.double hwest, .double hsouth, .double heast, .double hnorth, List.forall_mem_nil _⟩

theorem takes_point {p : Position} (h : p.Finite) : reader.Takes (point p).toJson (point p) := by
  have hordered : (point p).toJson.inOrder = true := by
    refine Json.inOrder_ofEntries ?_
    simp only [List.forall_mem_cons]
    exact ⟨rfl, p.inOrder_positionJson, List.forall_mem_nil _⟩
  refine takes_tagged "Point" hordered (by simp [List.lookup_cons]) rfl
    fun source fields hlookup ↦ ?_
  refine (reads_present ((hlookup "coordinates" (by decide)).trans ?_) (Position.takes h)).map _
  simp

theorem inOrder_ringsJson (rings : List (List Position)) : (ringsJson rings).inOrder = true :=
  Json.inOrder_map (Json.inOrder_map Position.inOrder_positionJson) rings

theorem takes_polygon {rings : List (List Position)} (h : ∀ ring ∈ rings, ∀ p ∈ ring, p.Finite) :
    reader.Takes (polygon rings).toJson (polygon rings) := by
  have hordered : (polygon rings).toJson.inOrder = true := by
    refine Json.inOrder_ofEntries ?_
    simp only [List.forall_mem_cons]
    exact ⟨rfl, inOrder_ringsJson rings, List.forall_mem_nil _⟩
  refine takes_tagged "Polygon" hordered (by simp [List.lookup_cons]) rfl
    fun source fields hlookup ↦ ?_
  refine (reads_present ((hlookup "coordinates" (by decide)).trans ?_) (takes_list fun ring hring ↦
    takes_list fun p hp ↦ Position.takes (h ring hring p hp))).map _
  simp [ringsJson]

theorem takes (h : Survive g.leaves) : reader.Takes g.toJson g := by
  have hordered := (sendable h).ordered
  cases g with
  | point p => exact takes_point (Position.finite_of_survive h)
  | polygon rings =>
    simp only [leaves, survive_flatMap] at h
    exact takes_polygon fun ring hring p hp ↦ Position.finite_of_survive (h ring hring p hp)
  | circle center radius =>
    simp only [leaves, survive_append, survive_cons, survives_double] at h
    refine takes_tagged "Circle" hordered (by simp [List.lookup_cons]) rfl
      fun source fields hlookup ↦ ?_
    refine ((reads_present ((hlookup "center" (by decide)).trans ?_)
      (Position.takes (Position.finite_of_survive h.1))).map _).seq (reads_present ((hlookup "radius" (by decide)).trans ?_) (takes_double h.2.1)) <;>
    simp [List.lookup_cons]
  | box low high =>
    refine takes_tagged "BBox" hordered (by simp [List.lookup_cons]) rfl
      fun source fields hlookup ↦ ?_
    refine reads_present ((hlookup "bbox" (by decide)).trans ?_) (takes_box h)
    simp

end Geometry

namespace TimeRange

variable {r : TimeRange}

theorem sendable (r : TimeRange) : Sendable 1 r.toJson := by
  refine .ofEntries ?_
  simp only [List.forall_mem_cons]
  exact ⟨.text _, .text _, List.forall_mem_nil _⟩

theorem takes (h : Survive r.leaves) : reader.Takes r.toJson r := by
  simp only [leaves, survive_cons] at h
  refine Json.Record.takes_reader (fun source ↦ ?_) _
  refine ((reads_present ?_ (takes_instant h.1)).map _).seq
    (reads_present ?_ (takes_instant h.2.1)) <;>
  simp [List.lookup_cons]

end TimeRange

namespace Ordering

theorem sendable (o : Ordering) : Sendable 1 o.toJson := by
  refine .ofEntries ?_
  simp only [List.forall_mem_cons]
  exact ⟨.text _, .text _, List.forall_mem_nil _⟩

theorem takes (o : Ordering) : reader.Takes o.toJson o := by
  have hdirection : Direction.reader.Takes (.text o.direction.name) o.direction := by
    refine takes_variant ?_
    cases o.direction <;> rfl
  refine Json.Record.takes_reader (fun source ↦ ?_) _
  refine ((reads_present ?_ (takes_text o.column)).map _).seq (reads_present ?_ hdirection) <;>
  simp [List.lookup_cons]

end Ordering

namespace Description

variable {d : Description}

theorem sendable (h : Survive d.leaves) : Sendable 5 d.toJson := by
  simp only [leaves, survive_append, survive_option_flatMap, survive_option_map,
    survives_nat] at h
  obtain ⟨⟨-, hgeometry⟩, hlimit⟩ := h
  refine .ofEntries ?_
  simp only [List.forall_mem_cons]
  refine ⟨.text _, .text _, .option fun r _ ↦ r.sendable.mono (by decide),
    .option fun g hg ↦ Geometry.sendable (hgeometry g hg), .option fun _ _ ↦ .text _,
    .option fun names _ ↦ ?_, ?_, .option fun n hn ↦ .number (hlimit n hn), List.forall_mem_nil _⟩
  · refine (Sendable.list (k := 0) fun v hv ↦ ?_).mono (by decide)
    obtain ⟨s, -, rfl⟩ := List.mem_map.mp hv
    exact .text s
  · refine (Sendable.list (k := 1) fun v hv ↦ ?_).mono (by decide)
    obtain ⟨o, -, rfl⟩ := List.mem_map.mp hv
    exact o.sendable

theorem takes (h : Survive d.leaves) (hlimit : ∀ n, d.limit = some n → n < UInt32.size) :
    reader.Takes d.toJson d := by
  simp only [leaves, survive_append, survive_option_flatMap] at h
  obtain ⟨⟨hrange, hgeometry⟩, -⟩ := h
  have hkind : Kind.reader.Takes (.text d.kind.name) d.kind := by
    refine takes_variant ?_
    cases d.kind <;> rfl
  refine Json.Record.takes_reader (fun source ↦ ?_) _
  refine ((((((((reads_present ?_ hkind).map _).seq (reads_present ?_ (takes_text d.table))).seq
    (reads_present ?_ (takes_option fun r hr ↦
      ⟨TimeRange.takes (hrange r hr), Json.noConfusion⟩))).seq
    (reads_present ?_ (takes_option fun g hg ↦
      ⟨Geometry.takes (hgeometry g hg), by cases g <;> exact Json.noConfusion⟩))).seq
    (reads_present ?_ (takes_option fun s _ ↦ ⟨takes_text s, Json.noConfusion⟩))).seq
    (reads_present ?_ (takes_option fun names _ ↦
      ⟨takes_list fun s _ ↦ takes_text s, Json.noConfusion⟩))).seq
    (reads_present ?_ (takes_list fun o _ ↦ o.takes))).seq
    (reads_present ?_ (takes_option fun n hn ↦
      ⟨takes_natBelow (hlimit n hn) _, Json.noConfusion⟩)) <;>
  simp [List.lookup_cons]

theorem given : reader.Gives fun _ d ↦ ∀ n, d.limit = some n → n < UInt32.size := by
  refine Json.Record.Gives.reader (.seq (.seq (.seq (.seq (.seq (.seq (.seq (.map _ gives_some ?_)
    gives_some) gives_some) gives_some) gives_some) gives_some) gives_some)
    (gives_perhaps (gives_option (gives_natBelow _ _)) fun _ _ h ↦ nomatch h)) _
  exact fun k kind _ table _ range _ geometry _ entity _ fields _ ordering _ limit hlimit ↦ hlimit

end Description

end Query

namespace Telemetry.Payload

variable {p : Payload} {k : ℕ}

/-- What the fields not known here have to have to be read again: their keys are in order and none of
the known ones, and they are nested within `k`. -/
structure Sound (k : ℕ) (p : Payload) : Prop where
  ordered : (Json.object p.extra).inOrder = true
  nested : (Json.object p.extra).within k = true
  other : ∀ f ∈ p.extra, f.1 ∉ ownRecord.names

def known (p : Payload) : Fields :=
  [("device_id", .text p.device), ("timestamp", Json.option (fun t => .text t.render) p.time),
    ("location", Json.option Geo.Point.toJson p.location),
    ("battery", Json.option .double p.battery), ("speed", Json.option .double p.speed),
    ("heading", Json.option .double p.heading)]

def fields (p : Payload) : Fields := .ofList (p.known ++ p.extra)

theorem sendable (hs : Sound (k + 1) p) (h : Survive p.leaves) :
    Sendable (max k 1 + 1) p.toJson := by
  simp only [leaves, survive_append, survive_option_flatMap, survive_option_map, survives_double,
    survive_leavesOf] at h
  obtain ⟨⟨⟨⟨⟨-, hlocation⟩, hbattery⟩, hspeed⟩, hheading⟩, hextra⟩ := h
  refine .ofEntries ?_
  simp only [List.forall_mem_append, List.forall_mem_cons]
  refine ⟨⟨.text _, .option fun _ _ ↦ .text _,
    .option fun p hp ↦ (Geo.Point.sendable (hlocation p hp)).mono (Nat.le_max_right k 1),
    .option fun x hx ↦ .double (hbattery x hx), .option fun x hx ↦ .double (hspeed x hx),
    .option fun x hx ↦ .double (hheading x hx), List.forall_mem_nil _⟩, fun f hf ↦ ?_⟩
  have hvalue : Sendable k f.2 :=
    ⟨(Json.inOrder_object.mp hs.ordered).2 f hf, List.all_eq_true.mp hs.nested f hf,
      fun n hn ↦ hextra n (Json.mem_fieldsNumbers.mpr ⟨f, hf, hn⟩)⟩
  exact hvalue.mono (Nat.le_max_left k 1)

theorem lookup_fields (hs : Sound k p) {name : String} (hname : name ∉ ownRecord.names) :
    p.fields.lookup name = p.extra.lookup name := by
  have hknown : p.known.reverse.lookup name = none := by
    refine Json.lookup_of_not_mem ?_
    rwa [List.map_reverse, List.mem_reverse]
  rw [fields, Json.lookup_ofList, List.reverse_append, List.lookup_append, hknown, Option.or_none,
    ← Json.lookup_ofList, Json.ofList_of_rising (Json.inOrder_object.mp hs.ordered).1]

theorem Sound.not_mem_extra (hs : Sound k p) {name : String} (hname : name ∈ ownRecord.names) :
    name ∉ p.extra.map Prod.fst := by
  intro hmem
  obtain ⟨f, hf, rfl⟩ := List.mem_map.mp hmem
  exact hs.other f hf hname

theorem lookup_known (hs : Sound k p) {name : String} (hname : name ∈ ownRecord.names) :
    p.fields.lookup name = p.known.reverse.lookup name := by
  have hextra : p.extra.reverse.lookup name = none := by
    refine Json.lookup_of_not_mem ?_
    rw [List.map_reverse, List.mem_reverse]
    exact hs.not_mem_extra hname
  rw [fields, Json.lookup_ofList, List.reverse_append, List.lookup_append, hextra, Option.none_or]

theorem filter_fields (hs : Sound k p) :
    (p.fields.filter fun f ↦ (ownRecord.checks.lookup f.1).isNone) = p.extra := by
  refine ((Json.rising_ofList _).filter _).ext (Json.inOrder_object.mp hs.ordered).1 fun name ↦ ?_
  rw [Json.lookup_filter fun key ↦ (ownRecord.checks.lookup key).isNone]
  by_cases hname : name ∈ ownRecord.names
  · rw [if_neg, Json.lookup_of_not_mem (hs.not_mem_extra hname)]
    rw [Option.isNone_iff_eq_none, ← Option.not_isSome_iff_eq_none, not_not]
    exact Json.isSome_lookup hname
  · rw [if_pos (Json.Record.lookup_checks_isNone hname)]
    exact lookup_fields hs hname

theorem takes (hs : Sound (k + 1) p) (h : Survive p.leaves) : reader.Takes p.toJson p := by
  have hordered := (sendable hs h).ordered
  simp only [leaves, survive_append, survive_option_flatMap, survive_option_map, survives_double,
    survive_leavesOf] at h
  obtain ⟨⟨⟨⟨⟨htime, hlocation⟩, hbattery⟩, hspeed⟩, hheading⟩, hextra⟩ := h
  have hnumber {o : Option Float} (ho : ∀ x, o = some x → (Json.Number.double x).survives = true) :
      (Json.Reader.option .double).Takes (Json.option .double o) o :=
    takes_option fun x hx ↦ ⟨takes_double (ho x hx), Json.Reader.double_ne_null (ho x hx)⟩
  have hown (source : Json.Source) : ownRecord.Reads source p.fields
      (Payload.mk p.device p.time p.location p.battery p.speed p.heading) := by
    refine ((((((reads_present ((lookup_known hs (by decide)).trans ?_)
      (takes_text p.device)).map _).seq
      (reads_present ((lookup_known hs (by decide)).trans ?_) (takes_option fun t ht ↦
        ⟨takes_instant (htime t ht), Json.noConfusion⟩))).seq
      (reads_present ((lookup_known hs (by decide)).trans ?_) (takes_option fun p hp ↦
        ⟨Geo.Point.takes (hlocation p hp), Json.noConfusion⟩))).seq
      (reads_present ((lookup_known hs (by decide)).trans ?_) (hnumber hbattery))).seq
      (reads_present ((lookup_known hs (by decide)).trans ?_) (hnumber hspeed))).seq
      (reads_present ((lookup_known hs (by decide)).trans ?_) (hnumber hheading)) <;>
    simp [known, List.lookup_cons]
  have hinner : Json.Reader.fields .aside (.object (Json.draftFields
      (p.fields.filter fun f ↦ (ownRecord.checks.lookup f.1).isNone)) none) = .ok p.extra := by
    rw [filter_fields hs]
    exact takes_fields hs.ordered .aside
  exact Json.Record.takes_readerWith hown hordered hinner "struct TelemetryPayload"
    fun payload extra ↦ payload extra

theorem given_extra : ownRecord.Gives fun _ make ↦ ∀ extra, (make extra).extra = extra := by
  refine .seq (.seq (.seq (.seq (.seq (.map _ gives_some ?_) gives_some) gives_some) gives_some)
    gives_some) gives_some
  exact fun _ _ _ _ _ _ _ _ _ _ _ _ _ _ ↦ rfl

theorem given : reader.Gives Sound := by
  have hinner : ∀ others extra k, (∀ e ∈ others, e.2.within k = true ∧ e.1 ∉ ownRecord.names) →
      Json.Reader.fields .aside (.object others none) = .ok extra →
      (Json.object extra).inOrder = true ∧ (Json.object extra).within (k + 1) = true ∧
        ∀ f ∈ extra, f.1 ∉ ownRecord.names := by
    intro others extra k hothers hread
    have hwithin : (Json.Draft.object others none).within (k + 1) = true :=
      List.all_eq_true.mpr fun e he ↦ (hothers e he).1
    obtain ⟨hordered, hnested⟩ := gives_fields .aside _ extra (k + 1) hwithin hread
    refine ⟨hordered, hnested, fun f hf ↦ ?_⟩
    obtain ⟨-, values, hvalues, hentries⟩ := Json.value_object.mp (Json.Reader.value_of_fields hread)
    cases hvalues
    rw [Json.entryValues_ok] at hentries
    obtain ⟨e, he, hkey, -⟩ := Json.exists_of_mem_right hentries (Json.mem_of_mem_ofList hf)
    exact hkey ▸ (hothers e he).2
  refine Json.Record.Gives.readerWith given_extra hinner ?_ _
  intro k make extra hmake ⟨hordered, hnested, hother⟩
  refine ⟨?_, ?_, ?_⟩ <;> rwa [hmake extra]

/-- Under each unknown name a message has what was sent. -/
theorem lookup_extra {source : Json.Source} {d : Json.Draft} {v : Json} (hd : d.within k = true)
    (hv : d.value = .ok v) (h : reader source d = .ok p) {name : String}
    (hname : name ∉ ownRecord.names) : p.extra.lookup name = v.get? name := by
  obtain ⟨entries, fault, kept, make, extra, rfl, hscan, hmake, hextra, rfl⟩ :=
    Json.Record.readerWith_ok h
  obtain ⟨-, values, rfl, hvalues⟩ := Json.value_object.mp hv
  have hothers := Json.entryValues_filter hvalues fun key ↦ (ownRecord.checks.lookup key).isNone
  obtain ⟨-, values', heq, hvalues'⟩ := Json.value_object.mp (Json.Reader.value_of_fields hextra)
  obtain rfl := Except.ok.inj (hothers.symm.trans hvalues')
  have hown : (make extra).extra = extra := by
    cases k with
    | zero => cases hd
    | succ k =>
      have hentries := List.all_eq_true.mp hd
      exact given_extra.ofFields source _ make k
        (Json.Record.within_of_scan hentries hscan) hmake extra
  obtain rfl := Json.object.inj heq
  rw [hown, Json.get?, Json.lookup_ofList, Json.lookup_ofList, ← List.filter_reverse]
  rw [Json.lookup_filter fun key ↦ (ownRecord.checks.lookup key).isNone,
    if_pos (Json.Record.lookup_checks_isNone hname)]

theorem get?_toJson (hs : Sound k p) {name : String} (hname : name ∉ ownRecord.names) :
    p.toJson.get? name = p.extra.lookup name :=
  lookup_fields hs hname

end Telemetry.Payload

namespace Tool

namespace Problem

theorem sendable (p : Problem) : Sendable 1 p.toJson := by
  refine .ofEntries ?_
  simp only [List.forall_mem_cons]
  exact ⟨.text _, .text _, List.forall_mem_nil _⟩

theorem takes (p : Problem) : reader.Takes p.toJson p := by
  refine Json.Record.takes_reader (fun source ↦ ?_) _
  refine ((reads_present ?_ (takes_text p.kind)).map _).seq
    (reads_present ?_ (takes_text p.message)) <;>
  simp [List.lookup_cons]

end Problem

namespace Response

variable {r : Response} {k : ℕ}

def Sound (k : ℕ) (r : Response) : Prop :=
  ∀ v, r.data = some v → v.inOrder = true ∧ v.within k = true

/-- The answer as a reader finds it, to whom null is no data. -/
def told (r : Response) : Response := { r with data := r.data.filter fun v ↦ !v.isNull }

theorem sendable (hs : Sound k r) (h : Survive r.leaves) : Sendable (max k 1 + 1) r.toJson := by
  simp only [leaves, survive_option_flatMap, survive_leavesOf] at h
  refine .ofEntries ?_
  simp only [List.forall_mem_append, List.forall_mem_singleton]
  refine ⟨⟨.bool _, .entry fun v hv ↦ ?_⟩,
    .entry fun p _ ↦ p.sendable.mono (Nat.le_max_right k 1)⟩
  have hdata : Sendable k v := ⟨(hs v hv).1, (hs v hv).2, h v hv⟩
  exact hdata.mono (Nat.le_max_left k 1)

theorem takes (hs : Sound k r) : reader.Takes r.toJson r.told := by
  refine Json.Record.takes_reader (fun source ↦ ?_) _
  refine (((reads_present ?_ (takes_bool r.ok)).map _).seq
    (Json.Record.reads_any? ?_ fun v hv ↦ (hs v hv).1)).seq
    (Json.Record.reads_perhaps ?_ fun p _ ↦ ⟨p.takes, Json.noConfusion⟩) <;>
  simp [List.lookup_append, List.lookup_cons]

theorem given : reader.Gives fun k r ↦ Sound (k - 1) r ∧ r.told = r := by
  refine Json.Record.Gives.reader (.seq (.seq (.map _ gives_some ?_)
    (gives_perhaps gives_any? fun _ _ h ↦ nomatch h)) gives_some) _
  intro k ok _ data hdata error _
  refine ⟨fun v hv ↦ (hdata v hv).2, ?_⟩
  rw [told, Json.Reader.filter_of_not_isNull fun v hv ↦ (hdata v hv).1]

end Response

end Tool

end FleetControl
