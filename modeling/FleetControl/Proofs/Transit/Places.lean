import FleetControl.Proofs.Json.Written
import FleetControl.Transit.Leaves
import Mathlib.Tactic.Common

namespace FleetControl

open Json (Sendable Fields)

namespace Transit

def Survive (leaves : List Leaf) : Prop := ∀ l ∈ leaves, l.Survives

section Survive

variable {α : Type} {l : Leaf} {ls ls' : List Leaf} {o : Option α} {as : List α}

@[simp]
theorem survive_nil : Survive [] := List.forall_mem_nil _

@[simp]
theorem survive_cons : Survive (l :: ls) ↔ l.Survives ∧ Survive ls := List.forall_mem_cons

@[simp]
theorem survive_append : Survive (ls ++ ls') ↔ Survive ls ∧ Survive ls' :=
  List.forall_mem_append

@[simp]
theorem survive_option_map {f : α → Leaf} :
    Survive (o.toList.map f) ↔ ∀ a, o = some a → (f a).Survives := by
  cases o <;> simp [Survive]

@[simp]
theorem survive_option_flatMap {f : α → List Leaf} :
    Survive (o.toList.flatMap f) ↔ ∀ a, o = some a → Survive (f a) := by
  cases o <;> simp [Survive]

@[simp]
theorem survive_flatMap {f : α → List Leaf} :
    Survive (as.flatMap f) ↔ ∀ a ∈ as, Survive (f a) := by
  simp only [Survive, List.mem_flatMap]
  exact ⟨fun h a ha l hl ↦ h l ⟨a, ha, hl⟩, fun h l ⟨a, ha, hl⟩ ↦ h a ha l hl⟩

@[simp]
theorem survive_leavesOf {v : Json} :
    Survive (leavesOf v) ↔ ∀ n ∈ v.numbers, n.survives = true := by
  simp [leavesOf, Survive, Leaf.Survives]

@[simp]
theorem survives_double {x : Float} :
    (Leaf.double x).Survives ↔ (Json.Number.double x).survives = true :=
  Iff.rfl

@[simp]
theorem survives_nat {n : ℕ} : (Leaf.nat n).Survives ↔ (Json.Number.int n).survives = true :=
  Iff.rfl

end Survive

end Transit

open Transit

namespace Geo

open Json.Record (reads_present reads_double?)
open Json.Reader (takes_text takes_bool takes_double takes_instant takes_list takes_variant
  takes_tagged)

namespace Point

variable {p : Point} {source : Json.Source} {fields : Fields}

theorem reads (h : Survive p.leaves)
    (hlongitude : fields.lookup "longitude" = some (.double p.longitude))
    (hlatitude : fields.lookup "latitude" = some (.double p.latitude))
    (haltitude : fields.lookup "altitude" = p.altitude.map .double) :
    record.Reads source fields p := by
  simp only [leaves, survive_append, survive_cons, survive_nil, survive_option_map,
    survives_double, and_true] at h
  obtain ⟨⟨hx, hy⟩, hz⟩ := h
  exact (((reads_present hlongitude (takes_double hx)).map Point.mk).seq
    (reads_present hlatitude (takes_double hy))).seq (reads_double? haltitude hz)

theorem takes (h : Survive p.leaves) : reader.Takes p.toJson p := by
  refine Json.Record.takes_reader (fun source ↦ reads h ?_ ?_ ?_) _ <;>
    simp [entries, List.lookup_append, List.lookup_cons]

theorem sendable_entries (h : Survive p.leaves) : ∀ e ∈ p.entries, Sendable 0 e.2 := by
  simp only [leaves, survive_append, survive_cons, survive_nil, survive_option_map,
    survives_double, and_true] at h
  obtain ⟨⟨hx, hy⟩, hz⟩ := h
  simp only [entries, List.forall_mem_append, List.forall_mem_cons]
  exact ⟨⟨.double hx, .double hy, List.forall_mem_nil _⟩, .entry fun x he ↦ .double (hz x he)⟩

theorem sendable (h : Survive p.leaves) : Sendable 1 p.toJson :=
  .ofEntries (sendable_entries h)

end Point

namespace Sample

variable {s : Sample}

def fields (s : Sample) : Fields :=
  .ofList (s.location.entries ++ [("timestamp", .text s.time.render)]
    ++ Json.entry? "speed" .double s.speed ++ Json.entry? "heading" .double s.heading
    ++ Json.entry? "accuracy" .double s.accuracy)

theorem sendable (h : Survive s.leaves) : Sendable 1 s.toJson := by
  simp only [leaves, survive_append, survive_cons, survive_nil, survive_option_map,
    survives_double, and_true] at h
  obtain ⟨⟨⟨⟨hlocation, -⟩, hspeed⟩, hheading⟩, haccuracy⟩ := h
  refine .ofEntries ?_
  simp only [List.forall_mem_append, List.forall_mem_singleton]
  exact ⟨⟨⟨⟨Point.sendable_entries hlocation, .text _⟩, .entry fun x he ↦ .double (hspeed x he)⟩,
    .entry fun x he ↦ .double (hheading x he)⟩, .entry fun x he ↦ .double (haccuracy x he)⟩

theorem takes (h : Survive s.leaves) : reader.Takes s.toJson s := by
  have hordered := (sendable h).ordered
  simp only [leaves, survive_append, survive_cons, survive_nil, survive_option_map,
    survives_double, and_true] at h
  obtain ⟨⟨⟨⟨hlocation, htime⟩, hspeed⟩, hheading⟩, haccuracy⟩ := h
  have hown (source : Json.Source) : ownRecord.Reads source s.fields
      fun location ↦ ⟨location, s.time, s.speed, s.heading, s.accuracy⟩ := by
    refine ((((reads_present ?_ (takes_instant htime)).map _).seq (reads_double? ?_ hspeed)).seq
      (reads_double? ?_ hheading)).seq (reads_double? ?_ haccuracy) <;>
    simp [fields, Point.entries, List.lookup_append, List.lookup_cons]
  have hothers {name : String} {o : Option Json} (hname : name ∉ ownRecord.names)
      (ho : s.fields.lookup name = o) :
      (s.fields.filter fun f ↦ (ownRecord.checks.lookup f.1).isNone).lookup name = o := by
    rw [Json.lookup_filter fun key ↦ (ownRecord.checks.lookup key).isNone,
      if_pos (Json.Record.lookup_checks_isNone hname), ho]
  have hpoint : Point.record.Reads .aside
      (s.fields.filter fun f ↦ (ownRecord.checks.lookup f.1).isNone) s.location := by
    refine Point.reads hlocation (hothers (by decide) ?_) (hothers (by decide) ?_)
      (hothers (by decide) ?_) <;>
    simp [fields, Point.entries, List.lookup_append, List.lookup_cons]
  have hinner := hpoint.readEntries ((Json.inOrder_object.mp hordered).1.filter _).nodup
  exact Json.Record.takes_readerWith hown hordered hinner "struct TrajectoryPoint"
    fun sample location ↦ sample location

end Sample

namespace Fence

namespace Area

variable {area : Area}

theorem sendable (h : Survive area.leaves) : Sendable 3 area.toJson := by
  cases area with
  | polygon ring =>
    simp only [leaves, survive_flatMap] at h
    refine .ofEntries ?_
    simp only [List.forall_mem_cons]
    refine ⟨.text _, .list fun v hv ↦ ?_, List.forall_mem_nil _⟩
    obtain ⟨p, hp, rfl⟩ := List.mem_map.mp hv
    exact Point.sendable (h p hp)
  | circle center radius =>
    simp only [leaves, survive_append, survive_cons, survives_double] at h
    refine .ofEntries ?_
    simp only [List.forall_mem_cons]
    exact ⟨.text _, (Point.sendable h.1).mono (by decide), .double h.2.1, List.forall_mem_nil _⟩

theorem takes (h : Survive area.leaves) : reader.Takes area.toJson area := by
  have hordered := (sendable h).ordered
  cases area with
  | polygon ring =>
    simp only [leaves, survive_flatMap] at h
    refine takes_tagged "polygon" hordered (by simp [List.lookup_cons]) rfl
      fun source fields hlookup ↦ ?_
    refine (reads_present ((hlookup "ring" (by decide)).trans ?_)
      (takes_list fun p hp ↦ Point.takes (h p hp))).map _
    simp
  | circle center radius =>
    simp only [leaves, survive_append, survive_cons, survives_double] at h
    refine takes_tagged "circle" hordered (by simp [List.lookup_cons]) rfl
      fun source fields hlookup ↦ ?_
    refine ((reads_present ((hlookup "center" (by decide)).trans ?_) (Point.takes h.1)).map _).seq
      (reads_present ((hlookup "radius_m" (by decide)).trans ?_) (takes_double h.2.1)) <;>
    simp [List.lookup_cons]

end Area

variable {f : Fence}

theorem sendable (h : Survive f.leaves) : Sendable 4 f.toJson := by
  simp only [leaves, survive_append] at h
  refine .ofEntries ?_
  simp only [List.forall_mem_cons]
  exact ⟨.text _, .text _, Area.sendable h.1, .bool _, .text _, .text _, List.forall_mem_nil _⟩

theorem takes (h : Survive f.leaves) : reader.Takes f.toJson f := by
  simp only [leaves, survive_append, survive_cons] at h
  obtain ⟨harea, hcreated, hupdated, -⟩ := h
  refine Json.Record.takes_reader (fun source ↦ ?_) _
  refine ((((((reads_present ?_ (takes_text f.id)).map _).seq
    (reads_present ?_ (takes_text f.name))).seq (reads_present ?_ (Area.takes harea))).seq
    (reads_present ?_ (takes_bool f.active))).seq (reads_present ?_ (takes_instant hcreated))).seq
    (reads_present ?_ (takes_instant hupdated)) <;>
  simp [List.lookup_cons]

namespace Event

variable {e : Event}

theorem sendable (h : Survive e.leaves) : Sendable 2 e.toJson := by
  simp only [leaves, survive_append, survive_cons, survive_option_map, survives_double] at h
  refine .ofEntries ?_
  simp only [List.forall_mem_append, List.forall_mem_cons]
  exact ⟨⟨.text _, .text _, .text _, Point.sendable h.1.1, .text _, List.forall_mem_nil _⟩,
    .entry fun x hx ↦ .double (h.2 x hx)⟩

theorem takes (h : Survive e.leaves) : reader.Takes e.toJson e := by
  simp only [leaves, survive_append, survive_cons, survive_option_map, survives_double] at h
  obtain ⟨⟨hlocation, htime, -⟩, hinside⟩ := h
  have hkind : EventKind.names.lookup e.kind.name = some e.kind := by cases e.kind <;> rfl
  refine Json.Record.takes_reader (fun source ↦ ?_) _
  refine ((((((reads_present ?_ (takes_text e.fence)).map _).seq
    (reads_present ?_ (takes_text e.entity))).seq (reads_present ?_ (takes_variant hkind))).seq
    (reads_present ?_ (Point.takes hlocation))).seq (reads_present ?_ (takes_instant htime))).seq
    (reads_double? ?_ hinside) <;>
  simp [List.lookup_append, List.lookup_cons]

end Event

end Fence

end Geo

end FleetControl
