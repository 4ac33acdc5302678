import FleetControl.Proofs.Query.Whitelist

namespace FleetControl.Query

theorem Table.name_of_column? {t : Table} {name : String} {c : Column}
    (h : t.column? name = some c) : c.name = name := by
  simpa using List.find?_some h

theorem Table.name_of_find? {t : Table} {name : String} (h : find? name = some t) :
    t.name = name := by
  simpa using List.find?_some h

theorem Table.geometryKind_eq_polygon {t : Table} (ht : t ∈ all) :
    t.geometryKind = .polygon ↔ ⟨t.geometry, .polygon⟩ ∈ t.columns := by
  revert t
  decide

theorem Table.columns_lookup {t : Table} (ht : t ∈ all) :
    t.columns.map some = t.names.map t.column? := by
  revert t
  decide

namespace Description

variable {settings : Settings} {t : Table} {d : Description} {parts : Parts}

theorem columnsOf_lookup {names : List String} {columns : List Column}
    (h : columnsOf t names = .ok columns) : columns.map some = names.map t.column? := by
  induction names generalizing columns with
  | nil =>
    obtain rfl : [] = columns := Except.ok.inj h
    rfl
  | cons name names ih =>
    rw [columnsOf] at h
    cases hc : t.column? name with
    | none => simp [hc] at h
    | some c =>
      cases hr : columnsOf t names with
      | error e => simp [hc, hr, Except.map] at h
      | ok rest =>
        obtain rfl : c :: rest = columns := by simpa [hc, hr, Except.map] using h
        rw [List.map_cons, List.map_cons, ih hr, hc]

/-- The fields that are asked for; to ask for none is to ask for all. -/
def requested (t : Table) (d : Description) : List String :=
  match d.fields with
  | none | some [] => t.names
  | some fields => fields

theorem selected_lookup (ht : t ∈ Table.all) {columns : List Column}
    (h : d.selected t = .ok columns) : columns.map some = (d.requested t).map t.column? := by
  have hall : t.columns.map some = t.names.map t.column? := Table.columns_lookup ht
  unfold selected at h
  unfold requested
  cases hf : d.fields with
  | none =>
    rw [hf] at h
    rw [← Except.ok.inj h, hall]
  | some fields =>
    rw [hf] at h
    cases fields with
    | nil => rw [← Except.ok.inj h, hall]
    | cons field fields => exact columnsOf_lookup h

theorem orderingsOf_eq {asked orderings : List Ordering}
    (h : orderingsOf t asked = .ok orderings) : orderings = asked := by
  induction asked generalizing orderings with
  | nil => exact (Except.ok.inj h).symm
  | cons o asked ih =>
    rw [orderingsOf] at h
    cases hc : t.column? o.column with
    | none => simp [hc] at h
    | some c =>
      simp only [hc] at h
      split at h
      · cases h
      · cases hr : orderingsOf t asked with
        | error e => simp [hr, Except.map] at h
        | ok rest =>
          obtain rfl : ⟨c.name, o.direction⟩ :: rest = orderings := by
            simpa [hr, Except.map] using h
          rw [ih hr, Table.name_of_column? hc]

namespace Gives

theorem times_eq (h : d.Gives settings parts) : parts.times =
    d.range.toList.map fun r ↦
      .between parts.table.timestamp (.instant r.start) (.instant r.finish) := by
  have htimes := h.times
  unfold rangeCondition at htimes
  split at htimes
  case h_1 hr => rw [← Except.ok.inj htimes, hr]; rfl
  case h_2 r hr =>
    split at htimes
    · cases htimes
    · rw [← Except.ok.inj htimes, hr]; rfl

theorem places_eq (h : d.Gives settings parts) :
    parts.places = d.geometry.toList.map (areaCondition settings parts.table) := by
  have hplaces := h.places
  unfold geometryCondition at hplaces
  split at hplaces
  case h_1 hg => rw [← Except.ok.inj hplaces, hg]; rfl
  case h_2 g hg =>
    split at hplaces
    · cases hplaces
    split at hplaces
    · rw [← Except.ok.inj hplaces, hg]; rfl
    · cases hplaces

theorem entities_eq (h : d.Gives settings parts) :
    d.entity = none ∧ parts.entities = [] ∨
      ∃ entity column, d.entity = some entity ∧ parts.table.entity = some column ∧
        parts.entities = [.equals column (.text entity)] := by
  have hentities := h.entities
  unfold entityCondition at hentities
  split at hentities
  case h_1 he => exact Or.inl ⟨he, (Except.ok.inj hentities).symm⟩
  case h_2 entity he =>
    split at hentities
    · cases hentities
    case h_2 column hc => exact Or.inr ⟨entity, column, he, hc, (Except.ok.inj hentities).symm⟩

theorem ordering_eq (h : d.Gives settings parts) :
    parts.ordering =
      if d.ordering ≠ [] then d.ordering
      else if d.kind = .trajectory then [⟨parts.table.timestamp, .ascending⟩] else [] := by
  have hordering := h.ordering
  unfold orderings at hordering
  split at hordering
  case h_1 ho => rw [← Except.ok.inj hordering, ho]; simp
  case h_2 ho => rw [orderingsOf_eq hordering, if_pos ho]

theorem limit_eq (h : d.Gives settings parts) :
    parts.limit = d.limit.elim settings.maxRows (min · settings.maxRows) := by
  have hlimit := h.limit
  unfold rowLimit at hlimit
  split at hlimit
  case h_1 hl => rw [← Except.ok.inj hlimit, hl]; rfl
  case h_2 => cases hlimit
  case h_3 n hl => rw [← Except.ok.inj hlimit, hl]; rfl

end Gives

end Description

end FleetControl.Query
