import FleetControl.Query.Compile

namespace FleetControl.Query

theorem bind_eq_ok {ε α β : Type} {x : Except ε α} {f : α → Except ε β} {b : β} :
    (x >>= f) = .ok b ↔ ∃ a, x = .ok a ∧ f a = .ok b := by
  cases x with
  | error e => simp [bind, Except.bind]
  | ok a => simp [bind, Except.bind]

structure Parts where
  table : Table
  times : List (Condition Bind)
  places : List (Condition Bind)
  entities : List (Condition Bind)
  columns : List Column
  ordering : List Ordering
  limit : Nat

def Parts.statement (parts : Parts) : Statement Bind :=
  ⟨parts.columns, parts.table.name, parts.times ++ parts.places ++ parts.entities, parts.ordering,
    .int parts.limit⟩

def Parts.compiled (parts : Parts) : Compiled :=
  ⟨parts.table.name, parts.statement.text, parts.statement.values, parts.columns, parts.limit⟩

namespace Description

structure Gives (settings : Settings) (d : Description) (parts : Parts) : Prop where
  table : Table.find? d.table = some parts.table
  times : d.rangeCondition parts.table = .ok parts.times
  places : d.geometryCondition settings parts.table = .ok parts.places
  entities : d.entityCondition parts.table = .ok parts.entities
  columns : d.selected parts.table = .ok parts.columns
  ordering : d.orderings parts.table = .ok parts.ordering
  limit : d.rowLimit settings = .ok parts.limit

variable {settings : Settings} {d : Description} {q : Compiled}

theorem statement_ok {r : Statement Bind × Nat} : d.statement settings = .ok r ↔
    ∃ parts, d.Gives settings parts ∧ r = (parts.statement, parts.limit) := by
  unfold statement
  cases ht : Table.find? d.table with
  | none =>
    refine ⟨fun h ↦ (by cases h), ?_⟩
    rintro ⟨parts, h, -⟩
    exact absurd h.table (by simp [ht])
  | some t =>
    constructor
    · intro h
      simp only [bind_eq_ok] at h
      obtain ⟨_, ⟨⟩, times, htimes, places, hplaces, entities, hentities, columns, hcolumns, ordering,
        hordering, limit, hlimit, ⟨⟩⟩ := h
      exact ⟨⟨t, times, places, entities, columns, ordering, limit⟩,
        ⟨ht, htimes, hplaces, hentities, hcolumns, hordering, hlimit⟩, rfl⟩
    · rintro ⟨parts, h, rfl⟩
      obtain rfl : t = parts.table := Option.some.inj (ht.symm.trans h.table)
      simp only [bind_eq_ok]
      exact ⟨_, rfl, _, h.times, _, h.places, _, h.entities, _, h.columns, _, h.ordering, _, h.limit,
        rfl⟩

theorem compile_ok : d.compile settings = .ok q ↔
    ∃ parts, d.Gives settings parts ∧ q = parts.compiled := by
  unfold compile
  constructor
  · intro h
    split at h
    case h_1 => cases h
    case h_2 s limit hs =>
      obtain ⟨parts, hg, hp⟩ := statement_ok.mp hs
      cases hp
      cases h
      exact ⟨parts, hg, rfl⟩
  · rintro ⟨parts, hg, rfl⟩
    rw [statement_ok.mpr ⟨parts, hg, rfl⟩]
    rfl

end Description

end FleetControl.Query
