import FleetControl.Proofs.Query.Stages

namespace FleetControl.Query

def Table.names (t : Table) : List String := t.columns.map Column.name

def Condition.column {α : Type} : Condition α → String
  | .between column _ _ => column
  | .near column _ _ => column
  | .touches column _ => column
  | .inside column _ => column
  | .equals column _ => column

/-- The statement is over the table and names no columns other than those of the table. -/
structure Statement.Declared {α : Type} (t : Table) (s : Statement α) : Prop where
  table : s.table = t.name
  columns : ∀ c ∈ s.columns, c ∈ t.columns
  conditions : ∀ c ∈ s.conditions, c.column ∈ t.names
  ordering : ∀ o ∈ s.ordering, o.column ∈ t.names

namespace Table

theorem mem_all_of_find? {name : String} {t : Table} (h : find? name = some t) : t ∈ all :=
  List.mem_of_find?_eq_some h

variable {t : Table}

theorem mem_columns {name : String} {c : Column} (h : t.column? name = some c) : c ∈ t.columns :=
  List.mem_of_find?_eq_some h

theorem name_mem_names {c : Column} (h : c ∈ t.columns) : c.name ∈ t.names :=
  List.mem_map_of_mem h

theorem timestamp_mem_names (h : t ∈ all) : t.timestamp ∈ t.names := by
  revert t
  decide

theorem geometry_mem_names (h : t ∈ all) : t.geometry ∈ t.names := by
  revert t
  decide

theorem entity_mem_names (h : t ∈ all) {column : String} (he : t.entity = some column) :
    column ∈ t.names := by
  have hall : ∀ t ∈ all, ∀ column ∈ t.entity, column ∈ t.names := by decide
  exact hall t h column he

end Table

namespace Description

variable {settings : Settings} {t : Table} {d : Description} {parts : Parts}
  {conditions : List (Condition Bind)}

theorem columnsOf_declared {names : List String} {columns : List Column}
    (h : columnsOf t names = .ok columns) : ∀ c ∈ columns, c ∈ t.columns := by
  induction names generalizing columns with
  | nil =>
    obtain rfl : [] = columns := Except.ok.inj h
    simp
  | cons name names ih =>
    rw [columnsOf] at h
    cases hc : t.column? name with
    | none => simp [hc] at h
    | some c =>
      cases hr : columnsOf t names with
      | error e => simp [hc, hr, Except.map] at h
      | ok rest =>
        obtain rfl : c :: rest = columns := by simpa [hc, hr, Except.map] using h
        exact List.forall_mem_cons.mpr ⟨Table.mem_columns hc, ih hr⟩

theorem selected_declared {columns : List Column} (h : d.selected t = .ok columns) :
    ∀ c ∈ columns, c ∈ t.columns := by
  unfold selected at h
  split at h
  · obtain rfl := Except.ok.inj h
    exact fun _ hc ↦ hc
  · obtain rfl := Except.ok.inj h
    exact fun _ hc ↦ hc
  · exact columnsOf_declared h

theorem orderingsOf_declared {asked orderings : List Ordering}
    (h : orderingsOf t asked = .ok orderings) : ∀ o ∈ orderings, o.column ∈ t.names := by
  induction asked generalizing orderings with
  | nil =>
    obtain rfl : [] = orderings := Except.ok.inj h
    simp
  | cons o asked ih =>
    rw [orderingsOf] at h
    cases hc : t.column? o.column with
    | none => simp [hc] at h
    | some c =>
      simp only [hc] at h
      split at h
      · cases h
      · cases hr : orderingsOf t asked with
        | error e => simp [hr, Except.map] at h
        | ok rest =>
          obtain rfl : ⟨c.name, o.direction⟩ :: rest = orderings := by
            simpa [hr, Except.map] using h
          exact List.forall_mem_cons.mpr
            ⟨Table.name_mem_names (Table.mem_columns hc), ih hr⟩

theorem orderings_declared (ht : t ∈ Table.all) {orderings : List Ordering}
    (h : d.orderings t = .ok orderings) : ∀ o ∈ orderings, o.column ∈ t.names := by
  unfold Description.orderings at h
  split at h
  · obtain rfl := Except.ok.inj h
    split
    · simpa using Table.timestamp_mem_names ht
    · simp
  · exact orderingsOf_declared h

theorem rangeCondition_declared (ht : t ∈ Table.all) (h : d.rangeCondition t = .ok conditions) :
    ∀ c ∈ conditions, c.column ∈ t.names := by
  unfold rangeCondition at h
  split at h
  · obtain rfl := Except.ok.inj h
    simp
  · split at h
    · cases h
    · obtain rfl := Except.ok.inj h
      simpa [Condition.column] using Table.timestamp_mem_names ht

theorem areaCondition_column (g : Geometry) : (areaCondition settings t g).column = t.geometry := by
  unfold areaCondition
  cases g with
  | point p => rfl
  | circle center radius => rfl
  | polygon rings => dsimp only; split <;> rfl
  | box low high => dsimp only; split <;> rfl

theorem geometryCondition_declared (ht : t ∈ Table.all)
    (h : d.geometryCondition settings t = .ok conditions) :
    ∀ c ∈ conditions, c.column ∈ t.names := by
  unfold geometryCondition at h
  split at h
  · obtain rfl := Except.ok.inj h
    simp
  · split at h
    · cases h
    split at h
    case isFalse => cases h
    case isTrue =>
      obtain rfl := Except.ok.inj h
      simpa [areaCondition_column] using Table.geometry_mem_names ht

theorem entityCondition_declared (ht : t ∈ Table.all)
    (h : d.entityCondition t = .ok conditions) : ∀ c ∈ conditions, c.column ∈ t.names := by
  unfold entityCondition at h
  split at h
  · obtain rfl := Except.ok.inj h
    simp
  · split at h
    · cases h
    case h_2 column hc =>
      obtain rfl := Except.ok.inj h
      simpa [Condition.column] using Table.entity_mem_names ht hc

theorem Gives.declared (h : d.Gives settings parts) :
    parts.statement.Declared parts.table := by
  have ht := Table.mem_all_of_find? h.table
  refine ⟨rfl, selected_declared h.columns, ?_, orderings_declared ht h.ordering⟩
  simp only [Parts.statement, List.forall_mem_append]
  exact ⟨⟨rangeCondition_declared ht h.times, geometryCondition_declared ht h.places⟩,
    entityCondition_declared ht h.entities⟩

end Description

end FleetControl.Query
