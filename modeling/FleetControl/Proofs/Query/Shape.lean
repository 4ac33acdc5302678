import FleetControl.Proofs.Query.Stages

namespace FleetControl.Query

variable {α β : Type}

namespace Condition

def map (f : α → β) : Condition α → Condition β
  | .between column low high => .between column (f low) (f high)
  | .near column shape distance => .near column (f shape) (f distance)
  | .touches column shape => .touches column (f shape)
  | .inside column shape => .inside column (f shape)
  | .equals column value => .equals column (f value)

theorem values_map (f : α → β) (c : Condition α) : (c.map f).values = c.values.map f := by
  cases c <;> rfl

theorem text_map (f : α → β) (n : Nat) (c : Condition α) : (c.map f).text n = c.text n := by
  cases c <;> rfl

theorem texts_map (f : α → β) (n : Nat) (cs : List (Condition α)) :
    texts n (cs.map (map f)) = texts n cs := by
  induction cs generalizing n with
  | nil => rfl
  | cons c cs ih =>
    rw [List.map_cons, texts, texts, text_map, values_map, List.length_map, ih]

end Condition

namespace Statement

def map (f : α → β) (s : Statement α) : Statement β where
  columns := s.columns
  table := s.table
  conditions := s.conditions.map (Condition.map f)
  ordering := s.ordering
  limit := f s.limit

theorem conditionValues_map (f : α → β) (s : Statement α) :
    (s.map f).conditionValues = s.conditionValues.map f := by
  simp [conditionValues, map, List.flatMap_map, List.map_flatMap, Condition.values_map]

theorem values_map (f : α → β) (s : Statement α) : (s.map f).values = s.values.map f := by
  rw [values, values, conditionValues_map, List.map_append]
  rfl

/-- The text depends on where values stand, not on what they are. -/
theorem text_map (f : α → β) (s : Statement α) : (s.map f).text = s.text := by
  have hw : (s.map f).whereText = s.whereText := by
    simp [whereText, map, Condition.texts_map]
  rw [text, text, hw, conditionValues_map, List.length_map]
  rfl

end Statement

inductive BindType where
  | text
  | double
  | int
  | instant
deriving DecidableEq

def Bind.type : Bind → BindType
  | .text _ => .text
  | .double _ => .double
  | .int _ => .int
  | .instant _ => .instant

def Geometry.isRound : Geometry → Bool
  | .point _ | .circle _ _ => true
  | .polygon _ | .box _ _ => false

/-- What is left of a description without its values. -/
structure Shape where
  kind : Kind
  table : String
  hasRange : Bool
  area : Option Bool
  hasEntity : Bool
  fields : Option (List String)
  ordering : List Ordering
deriving DecidableEq

namespace Description

def shape (d : Description) : Shape :=
  ⟨d.kind, d.table, d.range.isSome, d.geometry.map Geometry.isRound, d.entity.isSome, d.fields,
    d.ordering⟩

variable {settings settings' : Settings} {t : Table} {d d' : Description}
  {cs : List (Condition Bind)} {parts parts' : Parts} {q q' : Compiled}

theorem rangeCondition_types (h : d.rangeCondition t = .ok cs) :
    cs.map (Condition.map Bind.type) =
      if d.shape.hasRange then [.between t.timestamp .instant .instant] else [] := by
  unfold rangeCondition at h
  split at h
  case h_1 hr =>
    cases h
    simp [shape, hr]
  case h_2 r hr =>
    split at h
    · cases h
    · cases h
      simp [shape, hr, Condition.map, Bind.type]

theorem areaCondition_types (g : Geometry) :
    (areaCondition settings t g).map Bind.type =
      if g.isRound then .near t.geometry .text .double
      else if t.geometryKind = .polygon then .touches t.geometry .text
      else .inside t.geometry .text := by
  cases g with
  | point p => rfl
  | circle center radius => rfl
  | polygon rings =>
    simp only [areaCondition, Geometry.isRound]
    split <;> rfl
  | box low high =>
    simp only [areaCondition, Geometry.isRound]
    split <;> rfl

theorem geometryCondition_types (h : d.geometryCondition settings t = .ok cs) :
    cs.map (Condition.map Bind.type) =
      match d.shape.area with
      | none => []
      | some true => [.near t.geometry .text .double]
      | some false =>
        [if t.geometryKind = .polygon then .touches t.geometry .text
          else .inside t.geometry .text] := by
  unfold geometryCondition at h
  split at h
  case h_1 hg =>
    cases h
    simp [shape, hg]
  case h_2 g hg =>
    split at h
    · cases h
    split at h
    case isFalse => cases h
    case isTrue =>
      cases h
      have ha : d.shape.area = some g.isRound := by simp [shape, hg]
      rw [ha, List.map_cons, List.map_nil, areaCondition_types]
      cases g.isRound <;> rfl

theorem entityCondition_types (h : d.entityCondition t = .ok cs) :
    cs.map (Condition.map Bind.type) =
      if d.shape.hasEntity then (t.entity.map fun column ↦ .equals column .text).toList else [] := by
  unfold entityCondition at h
  split at h
  case h_1 he =>
    cases h
    simp [shape, he]
  case h_2 entity he =>
    split at h
    · cases h
    case h_2 column hc =>
      cases h
      simp [shape, he, hc, Condition.map, Bind.type]

theorem selected_congr (h : d.shape = d'.shape) : d.selected t = d'.selected t := by
  have hf : d.fields = d'.fields := congrArg Shape.fields h
  unfold selected
  rw [hf]

theorem orderings_congr (h : d.shape = d'.shape) : d.orderings t = d'.orderings t := by
  have hk : d.kind = d'.kind := congrArg Shape.kind h
  have ho : d.ordering = d'.ordering := congrArg Shape.ordering h
  unfold orderings
  rw [hk, ho]

theorem Gives.types (h : d.shape = d'.shape) (hp : d.Gives settings parts)
    (hp' : d'.Gives settings' parts') :
    parts.statement.map Bind.type = parts'.statement.map Bind.type := by
  have htable : d.table = d'.table := congrArg Shape.table h
  obtain ht : parts.table = parts'.table := by
    have hf := hp.table
    rw [htable, hp'.table] at hf
    exact (Option.some.inj hf).symm
  have hc := hp.columns
  rw [selected_congr h, ht, hp'.columns] at hc
  have ho := hp.ordering
  rw [orderings_congr h, ht, hp'.ordering] at ho
  have hr := rangeCondition_types hp.times
  have hg := geometryCondition_types hp.places
  have he := entityCondition_types hp.entities
  rw [h, ht] at hr hg he
  simp only [Parts.statement, Statement.map, List.map_append, hr, hg, he, ht, Except.ok.inj hc,
    Except.ok.inj ho, rangeCondition_types hp'.times, geometryCondition_types hp'.places,
    entityCondition_types hp'.entities, Bind.type]

/-- No value gets into the text: two descriptions of one shape have the same statement and columns,
whatever the settings, and values of the same types in the same order. -/
theorem values_stay_out (h : d.shape = d'.shape) (hq : d.compile settings = .ok q)
    (hq' : d'.compile settings' = .ok q') :
    q.statement = q'.statement ∧ q.columns = q'.columns ∧
      q.binds.map Bind.type = q'.binds.map Bind.type := by
  obtain ⟨parts, hp, rfl⟩ := compile_ok.mp hq
  obtain ⟨parts', hp', rfl⟩ := compile_ok.mp hq'
  have hs := hp.types h hp'
  refine ⟨?_, congrArg Statement.columns hs, ?_⟩
  · calc
      parts.statement.text = (parts.statement.map Bind.type).text := (Statement.text_map _ _).symm
      _ = (parts'.statement.map Bind.type).text := by rw [hs]
      _ = parts'.statement.text := Statement.text_map _ _
  · calc
      parts.statement.values.map Bind.type = (parts.statement.map Bind.type).values :=
        (Statement.values_map _ _).symm
      _ = (parts'.statement.map Bind.type).values := by rw [hs]
      _ = parts'.statement.values.map Bind.type := Statement.values_map _ _

/-- A search whose entity reads like more of a statement. -/
def hostile : Description where
  kind := .trajectory
  table := "drone_trajectory"
  range := some ⟨⟨20000, 0, 0⟩, ⟨20000, 3600, 0⟩⟩
  geometry := some (.point ⟨8.5, 47.4⟩)
  entity := some "x' OR 1=1; DROP TABLE drone_trajectory; --"
  fields := some ["drone_id", "location"]
  ordering := []
  limit := none

def tame : Description :=
  { hostile with
    range := some ⟨⟨0, 0, 0⟩, ⟨1, 0, 0⟩⟩
    geometry := some (.circle ⟨-0.1, 51.5⟩ 250.0)
    entity := some "drone-7"
    limit := some 3 }

theorem values_stay_out_hostile :
    hostile.shape = tame.shape ∧ ∃ q q', hostile.compile .standard = .ok q ∧
      tame.compile ⟨100, 5.0⟩ = .ok q' ∧ q.statement = q'.statement ∧ q.columns = q'.columns ∧
        q.binds.map Bind.type = q'.binds.map Bind.type := by
  have hs : hostile.shape = tame.shape := by decide
  have hq : (hostile.compile .standard).isOk := by decide +kernel
  have hq' : (tame.compile ⟨100, 5.0⟩).isOk := by decide +kernel
  cases h : hostile.compile .standard with
  | error e => simp [h, Except.isOk, Except.toBool] at hq
  | ok q =>
    cases h' : tame.compile ⟨100, 5.0⟩ with
    | error e => simp [h', Except.isOk, Except.toBool] at hq'
    | ok q' => exact ⟨hs, q, q', rfl, rfl, values_stay_out hs h h'⟩

end Description

end FleetControl.Query
