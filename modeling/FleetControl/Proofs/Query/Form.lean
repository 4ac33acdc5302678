import FleetControl.Proofs.Query.Assembly
import FleetControl.Proofs.Query.Parts
import FleetControl.Proofs.Query.Pieces
import FleetControl.Proofs.Query.Shape

namespace FleetControl.Query

def fixedWords : List String :=
  ["SELECT", "ST_AsGeoJSON", "jsonb", "AS", "FROM", "WHERE", "BETWEEN", "AND", "ST_DWithin",
    "ST_Intersects", "ST_Within", "ST_SetSRID", "ST_GeomFromGeoJSON", "geography", "ORDER", "BY",
    "ASC", "DESC", "LIMIT"]

/-- A word that may be in a statement over a table: a number, a fixed word, the name of the table or
that of one of its columns. -/
def Table.Knows (t : Table) (word : List Char) : Prop :=
  (∀ c ∈ word, c.isDigit = true) ∨ String.ofList word ∈ fixedWords ∨ String.ofList word = t.name ∨
    String.ofList word ∈ t.names

def clause (keyword separator : String) (texts : List String) : String :=
  if texts = [] then "" else keyword ++ separator.intercalate texts

open Condition (placeholder shapeText)

def Geometry.predicate (t : Table) (n : ℕ) (g : Geometry) : String :=
  match g with
  | .point _ | .circle _ _ =>
    "ST_DWithin(" ++ t.geometry ++ "::geography, " ++ shapeText n ++ "::geography, "
      ++ placeholder (n + 1) ++ ")"
  | .polygon _ | .box _ _ =>
    if ⟨t.geometry, .polygon⟩ ∈ t.columns then
      "ST_Intersects(" ++ t.geometry ++ ", " ++ shapeText n ++ ")"
    else "ST_Within(" ++ t.geometry ++ ", " ++ shapeText n ++ ")"

namespace Description

def rangeCount (d : Description) : ℕ := if d.range.isSome then 2 else 0

def areaCount (d : Description) : ℕ := d.geometry.elim 0 fun g ↦ if g.isRound then 2 else 1

def predicates (t : Table) (d : Description) : List String :=
  (d.range.toList.map fun _ ↦
      t.timestamp ++ " BETWEEN " ++ placeholder 1 ++ " AND " ++ placeholder 2)
    ++ d.geometry.toList.map (Geometry.predicate t (1 + d.rangeCount))
    ++ (d.entity.bind fun _ ↦ t.entity).toList.map fun column ↦
      column ++ " = " ++ placeholder (1 + d.rangeCount + d.areaCount)

def orderKeys (t : Table) (d : Description) : List Ordering :=
  if d.ordering ≠ [] then d.ordering
  else if d.kind = .trajectory then [⟨t.timestamp, .ascending⟩] else []

end Description

/-- The form of a compiled statement over a table. -/
structure Compiled.HasForm (q : Compiled) (t : Table) (d : Description) : Prop where
  columns : q.columns.map some = (d.requested t).map t.column?
  declared : ∀ c ∈ q.columns, c ∈ t.columns
  entity : d.entity.isSome = true → t.entity.isSome = true
  statement : q.statement =
    "SELECT " ++ ", ".intercalate (q.columns.map fun c ↦
        if c.kind = .point ∨ c.kind = .polygon then
          "ST_AsGeoJSON(" ++ c.name ++ ")::jsonb AS " ++ c.name
        else c.name)
      ++ " FROM " ++ t.name
      ++ clause " WHERE " " AND " (d.predicates t)
      ++ clause " ORDER BY " ", " ((d.orderKeys t).map fun o ↦
        o.column ++ " " ++ if o.direction = .ascending then "ASC" else "DESC")
      ++ " LIMIT " ++ placeholder q.binds.length
  ordering : ∀ o ∈ d.orderKeys t, o.column ∈ t.names
  words : ∀ word ∈ Text.runs q.statement.toList, t.Knows word

theorem Made.knows {t : Table} (ht : t ∈ Table.all) {cs : List Char}
    (h : Made (t.name :: t.names) cs) : ∀ word ∈ Text.runs cs, t.Knows word := by
  induction h with
  | nil => exact List.forall_mem_singleton.mpr (Or.inl (by simp))
  | fixed hs =>
    -- The one number among them is that of the coordinate system.
    have hall : ∀ s ∈ fixedPieces, ∀ word ∈ Text.runs s.toList,
        word.all Char.isDigit = true ∨ String.ofList word ∈ fixedWords := by decide +kernel
    exact fun word hword ↦ (hall _ hs word hword).imp List.all_eq_true.mp Or.inl
  | number n =>
    rw [Text.runs_number, List.forall_mem_singleton]
    exact Or.inl fun _ hc ↦ Text.isDigit_of_mem_number hc
  | @name s hs =>
    have hword : ∀ t ∈ Table.all, ∀ s ∈ t.name :: t.names, s.toList.all Text.isWord = true := by
      decide +kernel
    rw [Text.runs_of_word (List.all_eq_true.mp (hword t ht s hs)), List.forall_mem_singleton, Table.Knows,
      String.ofList_toList]
    exact Or.inr (Or.inr (List.mem_cons.mp hs))
  | append hcs hds hseam ihcs ihds =>
    exact fun word hword ↦ (Text.mem_runs_append hseam hword).elim (ihcs word) (ihds word)

theorem Column.item_eq (c : Column) : c.item =
    if c.kind = .point ∨ c.kind = .polygon then
      "ST_AsGeoJSON(" ++ c.name ++ ")::jsonb AS " ++ c.name
    else c.name := by
  unfold Column.item
  cases c.kind <;> rfl

theorem Ordering.text_eq (o : Ordering) :
    o.text = o.column ++ " " ++ if o.direction = .ascending then "ASC" else "DESC" := by
  unfold Ordering.text
  cases o.direction <;> rfl

namespace Statement

variable {α : Type}

theorem whereText_eq (s : Statement α) :
    s.whereText = clause " WHERE " " AND " (Condition.texts 1 s.conditions) := by
  unfold whereText clause
  cases s.conditions <;> rfl

theorem orderText_eq (s : Statement α) :
    s.orderText = clause " ORDER BY " ", " (s.ordering.map Ordering.text) := by
  unfold orderText clause
  cases s.ordering <;> rfl

theorem text_eq (s : Statement α) : s.text =
    "SELECT " ++ ", ".intercalate (s.columns.map Column.item) ++ " FROM " ++ s.table
      ++ clause " WHERE " " AND " (Condition.texts 1 s.conditions)
      ++ clause " ORDER BY " ", " (s.ordering.map Ordering.text)
      ++ " LIMIT " ++ placeholder s.values.length := by
  have hlength : s.values.length = s.conditionValues.length + 1 := List.length_append
  rw [text, whereText_eq, orderText_eq, hlength]

end Statement

namespace Description

variable {settings : Settings} {t : Table} {d : Description} {parts : Parts} {q : Compiled}

theorem areaCondition_text (ht : t ∈ Table.all) (g : Geometry) (n : ℕ) :
    (areaCondition settings t g).text n = g.predicate t n := by
  have hkind := Table.geometryKind_eq_polygon ht
  unfold areaCondition Geometry.predicate
  cases g with
  | point p => rfl
  | circle center radius => rfl
  | polygon rings => simp only [← hkind]; split <;> rfl
  | box low high => simp only [← hkind]; split <;> rfl

theorem length_areaCondition_values (g : Geometry) :
    (areaCondition settings t g).values.length = if g.isRound then 2 else 1 := by
  cases g with
  | point p => rfl
  | circle center radius => rfl
  | polygon rings => simp only [areaCondition]; split <;> rfl
  | box low high => simp only [areaCondition]; split <;> rfl

namespace Gives

theorem length_times (h : d.Gives settings parts) :
    (parts.times.flatMap Condition.values).length = d.rangeCount := by
  rw [h.times_eq, rangeCount]
  cases d.range <;> rfl

theorem length_places (h : d.Gives settings parts) :
    (parts.places.flatMap Condition.values).length = d.areaCount := by
  rw [h.places_eq, areaCount]
  cases d.geometry with
  | none => rfl
  | some g => simpa using length_areaCondition_values g

theorem texts_eq (h : d.Gives settings parts) :
    Condition.texts 1 parts.statement.conditions = d.predicates parts.table := by
  have htimes : Condition.texts 1 parts.times = d.range.toList.map fun _ ↦
      parts.table.timestamp ++ " BETWEEN " ++ placeholder 1 ++ " AND " ++ placeholder 2 := by
    rw [h.times_eq]
    cases d.range <;> rfl
  have hplaces : ∀ n, Condition.texts n parts.places =
      d.geometry.toList.map (Geometry.predicate parts.table n) := by
    intro n
    rw [h.places_eq]
    cases d.geometry with
    | none => rfl
    | some g =>
      exact congrArg (fun text ↦ [text]) (areaCondition_text (Table.mem_all_of_find? h.table) g n)
  have hentities : ∀ n, Condition.texts n parts.entities =
      (d.entity.bind fun _ ↦ parts.table.entity).toList.map fun column ↦
        column ++ " = " ++ placeholder n := by
    intro n
    rcases h.entities_eq with ⟨hd, he⟩ | ⟨entity, column, hd, hc, he⟩
    · rw [hd, he]; rfl
    · rw [hd, he, Option.bind_some, hc]; rfl
  rw [Parts.statement, texts_append, texts_append, List.flatMap_append, List.length_append,
    h.length_times, h.length_places, htimes, hplaces, hentities, ← Nat.add_assoc]
  rfl

end Gives

/-- A description that compiles does so to a statement of this form, over the table that it names. -/
theorem form_of_compile (h : d.compile settings = .ok q) :
    ∃ t, Table.find? d.table = some t ∧ t.name = d.table ∧ q.table = t.name ∧ q.HasForm t d := by
  obtain ⟨parts, hp, rfl⟩ := compile_ok.mp h
  have ht := Table.mem_all_of_find? hp.table
  have hordering : parts.ordering = d.orderKeys parts.table := hp.ordering_eq
  refine ⟨parts.table, hp.table, Table.name_of_find? hp.table, rfl, ?_⟩
  exact {
    columns := selected_lookup ht hp.columns
    declared := hp.declared.columns
    entity := by
      intro hd
      rcases hp.entities_eq with ⟨hnone, -⟩ | ⟨entity, column, -, hc, -⟩
      · simp [hnone] at hd
      · simp [hc]
    statement := by
      rw [← hordering, ← hp.texts_eq, ← funext Column.item_eq, ← funext Ordering.text_eq]
      exact parts.statement.text_eq
    ordering := hordering ▸ hp.declared.ordering
    words := Made.knows ht hp.declared.made }

def fences : Description where
  kind := .trajectory
  table := "geo_fence"
  range := none
  geometry := some (.box ⟨0.0, 0.0⟩ ⟨1.0, 1.0⟩)
  entity := none
  fields := some ["boundary", "name", "boundary"]
  ordering := []
  limit := none

theorem form_of_compile_fences : ∃ q, fences.compile .standard = .ok q ∧
    q.HasForm Table.geoFence fences ∧
    q.columns = [⟨"boundary", .polygon⟩, ⟨"name", .text⟩, ⟨"boundary", .polygon⟩] ∧
    fences.predicates Table.geoFence =
      ["ST_Intersects(boundary, ST_SetSRID(ST_GeomFromGeoJSON($1), 4326))"] ∧
    fences.orderKeys Table.geoFence = [⟨"created_at", .ascending⟩] := by
  have hok : (fences.compile .standard).isOk := by decide +kernel
  cases hq : fences.compile .standard with
  | error e => simp [hq, Except.isOk, Except.toBool] at hok
  | ok q =>
    obtain ⟨t, ht, -, -, hform⟩ := form_of_compile hq
    obtain rfl : Table.geoFence = t := Option.some.inj ht
    have hcolumns : q.columns.map some =
        [⟨"boundary", .polygon⟩, ⟨"name", .text⟩, ⟨"boundary", .polygon⟩].map some :=
      hform.columns.trans (by decide)
    refine ⟨q, rfl, hform, ?_, by decide, by decide⟩
    exact (List.map_inj_right fun _ _ h ↦ Option.some.inj h).mp hcolumns

end Description

end FleetControl.Query
