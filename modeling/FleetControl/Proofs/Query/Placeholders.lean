import FleetControl.Proofs.Query.Assembly
import FleetControl.Proofs.Query.Parts
import FleetControl.Proofs.Query.Slots

namespace FleetControl.Query

namespace Description

variable (settings : Settings) (d : Description)

def distance? : Option Float :=
  d.geometry.bind fun
    | .point _ => some settings.pointRadius
    | .circle _ radius => some radius
    | .polygon _ | .box _ _ => none

/-- The value that a description has for a role. -/
def value? : Role → Option Bind
  | .start => d.range.map fun r ↦ .instant r.start
  | .finish => d.range.map fun r ↦ .instant r.finish
  | .shape => d.geometry.map fun g ↦ .text g.toGeoJson.render
  | .distance => (d.distance? settings).map .double
  | .entity => d.entity.map .text
  | .limit => some (.int (d.limit.elim settings.maxRows (min · settings.maxRows) : ℕ))

def roles : List Role := Role.all.filter fun r ↦ (d.value? settings r).isSome

end Description

def Condition.roles {α : Type} : Condition α → List Role
  | .between _ _ _ => [.start, .finish]
  | .near _ _ _ => [.shape, .distance]
  | .touches _ _ => [.shape]
  | .inside _ _ => [.shape]
  | .equals _ _ => [.entity]

/-- The condition is about the column that a table has for conditions like it. -/
def Condition.Suits {α : Type} (t : Table) : Condition α → Prop
  | .between column _ _ => column = t.timestamp
  | .near column _ _ => column = t.geometry
  | .touches column _ => column = t.geometry
  | .inside column _ => column = t.geometry
  | .equals column _ => t.entity = some column

theorem Table.plain_names {t : Table} (ht : t ∈ all) :
    Plain t.name ∧ ∀ name ∈ t.names, Plain name := by
  revert t
  decide +kernel

namespace Condition

variable {α : Type} {t : Table} {before : List Char}

theorem length_roles (c : Condition α) : c.roles.length = c.values.length := by
  cases c <;> rfl

theorem length_flatMap_roles (cs : List (Condition α)) :
    (cs.flatMap roles).length = (cs.flatMap values).length := by
  simp only [List.length_flatMap, length_roles]

theorem Suits.plain {c : Condition α} (h : c.Suits t) (ht : t ∈ Table.all) : Plain c.column := by
  have hnames := (Table.plain_names ht).2
  cases c with
  | between column low high => exact h ▸ hnames _ (Table.timestamp_mem_names ht)
  | near column shape distance => exact h ▸ hnames _ (Table.geometry_mem_names ht)
  | touches column shape => exact h ▸ hnames _ (Table.geometry_mem_names ht)
  | inside column shape => exact h ▸ hnames _ (Table.geometry_mem_names ht)
  | equals column value => exact hnames _ (Table.entity_mem_names ht h)

theorem shows_shapeText (n : ℕ) : Shows t before (shapeText n) (numbered n [.shape]) := by
  have hend : "ST_GeomFromGeoJSON(".toList <:+ "ST_SetSRID(ST_GeomFromGeoJSON(".toList := by decide
  have hlead : "ST_GeomFromGeoJSON(".toList <:+
      before ++ "ST_SetSRID(ST_GeomFromGeoJSON(".toList :=
    hend.trans (List.suffix_append _ _)
  have hopen : Shows t before "ST_SetSRID(ST_GeomFromGeoJSON(" [] := Shows.plain (by decide)
  have hshape : Shows t before ("ST_SetSRID(ST_GeomFromGeoJSON(" ++ placeholder n)
      (numbered n [.shape]) :=
    hopen.append_placeholder (r := .shape) rfl hlead
  exact hshape.append_plain (by decide) (by decide)

theorem breaks_shapeText (n : ℕ) : Breaks (shapeText n) :=
  (Breaks.append_of_ne (by decide) (by simp) _).append (by decide)

theorem numbered_pair (n : ℕ) (r r' : Role) :
    numbered n [r, r'] = numbered n [r] ++ [(placeholder (n + 1), [r'])] := rfl

theorem Suits.shows {c : Condition α} (h : c.Suits t) (ht : t ∈ Table.all) (n : ℕ) :
    Shows t before (c.text n) (numbered n c.roles) := by
  have hplain := h.plain ht
  cases c with
  | between column low high =>
    obtain rfl : column = t.timestamp := h
    have hlow : Shows t before (t.timestamp ++ " BETWEEN " ++ placeholder n)
        (numbered n [.start]) :=
      (Shows.plain (plain_append.mpr ⟨hplain, by decide⟩)).append_placeholder (r := .start) rfl
        (List.suffix_append _ _)
    have hfinish : Role.lead? t (n + 1) .finish =
        some (t.timestamp ++ " BETWEEN " ++ placeholder n ++ " AND ") := rfl
    rw [roles, numbered_pair]
    exact (hlow.append_plain (by decide) (by decide)).append_placeholder hfinish
      (List.suffix_append _ _)
  | near column shape distance =>
    obtain rfl : column = t.geometry := h
    have hcolumn : Shows t before ("ST_DWithin(" ++ t.geometry ++ "::geography, ") [] :=
      Shows.plain (plain_append.mpr ⟨plain_append.mpr ⟨by decide, hplain⟩, by decide⟩)
    have hshape := (hcolumn.append (breaks_shapeText n) (shows_shapeText n)).append_plain
      (b := "::geography, ") (by decide) (by decide)
    -- What leads to the distance holds the number of the shape.
    have hdistance : Role.lead? t (n + 1) .distance =
        some ("ST_DWithin(" ++ t.geometry ++ "::geography, " ++ shapeText n ++ "::geography, ") :=
      rfl
    rw [roles, numbered_pair]
    exact (hshape.append_placeholder hdistance (List.suffix_append _ _)).append_plain
      (by decide) (by decide)
  | touches column shape =>
    have hcolumn : Shows t before ("ST_Intersects(" ++ column ++ ", ") [] :=
      Shows.plain (plain_append.mpr ⟨plain_append.mpr ⟨by decide, hplain⟩, by decide⟩)
    exact (hcolumn.append (breaks_shapeText n) (shows_shapeText n)).append_plain
      (by decide) (by decide)
  | inside column shape =>
    have hcolumn : Shows t before ("ST_Within(" ++ column ++ ", ") [] :=
      Shows.plain (plain_append.mpr ⟨plain_append.mpr ⟨by decide, hplain⟩, by decide⟩)
    exact (hcolumn.append (breaks_shapeText n) (shows_shapeText n)).append_plain
      (by decide) (by decide)
  | equals column value =>
    have hlead : Role.lead? t n .entity = some (column ++ " = ") := by
      rw [Role.lead?, show t.entity = some column from h]
      rfl
    exact (Shows.plain (plain_append.mpr ⟨hplain, by decide⟩)).append_placeholder hlead
      (List.suffix_append _ _)

theorem shows_texts (ht : t ∈ Table.all) (n : ℕ) {cs : List (Condition α)}
    (h : ∀ c ∈ cs, c.Suits t) :
    Shows t before (" AND ".intercalate (texts n cs)) (numbered n (cs.flatMap roles)) := by
  -- The text before and the number go on from one condition to the next.
  induction cs generalizing n before with
  | nil => exact Shows.nil
  | cons c cs ih =>
    rw [List.forall_mem_cons] at h
    have hc : Shows t before (c.text n) (numbered n c.roles) := h.1.shows ht n
    cases cs with
    | nil =>
      rw [texts, texts, String.intercalate_singleton, List.flatMap_cons, List.flatMap_nil,
        List.append_nil]
      exact hc
    | cons c' cs =>
      have hrest := Shows.plain_append (a := " AND ") (by decide)
        (@ih (before ++ (c.text n).toList ++ " AND ".toList) (n + c.values.length) h.2)
      have hboth := hc.append (Breaks.append_of_ne (by decide) (by decide) _) hrest
      rw [← String.append_assoc, ← length_roles, ← numbered_append, length_roles] at hboth
      rw [texts, List.flatMap_cons]
      simpa only [texts, String.intercalate_cons_cons] using hboth

end Condition

theorem Column.plain_item {c : Column} (h : Plain c.name) : Plain c.item := by
  unfold Column.item
  split
  · exact plain_append.mpr ⟨plain_append.mpr ⟨plain_append.mpr ⟨by decide, h⟩, by decide⟩, h⟩
  · exact h

theorem Ordering.plain_text {o : Ordering} (h : Plain o.column) : Plain o.text := by
  have hd : Plain o.direction.keyword := by cases o.direction <;> decide
  exact plain_append.mpr ⟨plain_append.mpr ⟨h, by decide⟩, hd⟩

namespace Statement

variable {α : Type} {t : Table} {s : Statement α}

theorem plain_orderText (h : ∀ o ∈ s.ordering, Plain o.column) : Plain s.orderText := by
  unfold orderText
  split
  · decide
  · exact plain_append.mpr ⟨by decide, Plain.intercalate (by decide)
      (List.forall_mem_map.mpr fun o ho ↦ Ordering.plain_text (h o ho))⟩

theorem breaks_orderText (s : Statement α) : Breaks s.orderText := by
  unfold orderText
  split
  · decide
  · exact Breaks.append_of_ne (by decide) (by simp) _

theorem breaks_whereText (s : Statement α) : Breaks s.whereText := by
  unfold whereText
  split
  · decide
  · exact Breaks.append_of_ne (by decide) (by simp) _

theorem shows_whereText {before : List Char} (ht : t ∈ Table.all)
    (hs : ∀ c ∈ s.conditions, c.Suits t) :
    Shows t before s.whereText (numbered 1 (s.conditions.flatMap Condition.roles)) := by
  unfold whereText
  split
  case isTrue hempty =>
    rw [List.isEmpty_iff.mp hempty]
    exact Shows.nil
  case isFalse => exact Shows.plain_append (by decide) (Condition.shows_texts ht 1 hs)

theorem shows_text (ht : t ∈ Table.all) (h : s.Declared t) (hs : ∀ c ∈ s.conditions, c.Suits t) :
    Shows t [] s.text (numbered 1 (s.conditions.flatMap Condition.roles ++ [.limit])) := by
  obtain ⟨htable, hnames⟩ := Table.plain_names ht
  have hitems : ∀ text ∈ s.columns.map Column.item, Plain text :=
    List.forall_mem_map.mpr fun c hc ↦
      Column.plain_item (hnames _ (Table.name_mem_names (h.columns c hc)))
  have hselect : Plain ("SELECT " ++ ", ".intercalate (s.columns.map Column.item)) :=
    plain_append.mpr ⟨by decide, Plain.intercalate (by decide) hitems⟩
  have hfrom : Shows t [] ("SELECT " ++ ", ".intercalate (s.columns.map Column.item) ++ " FROM "
      ++ s.table) [] :=
    Shows.plain (plain_append.mpr ⟨plain_append.mpr ⟨hselect, by decide⟩, h.table ▸ htable⟩)
  have hwhere := hfrom.append s.breaks_whereText (shows_whereText ht hs)
  have horder := hwhere.append_plain s.breaks_orderText
    (plain_orderText fun o ho ↦ hnames _ (h.ordering o ho))
  have hlimit := horder.append_plain (b := " LIMIT ") (by decide) (by decide)
  have hend : " LIMIT ".toList <:+ [] ++ ("SELECT " ++ ", ".intercalate (s.columns.map Column.item)
      ++ " FROM " ++ s.table ++ s.whereText ++ s.orderText ++ " LIMIT ").toList := by
    rw [List.nil_append, String.toList_append]
    exact List.suffix_append _ _
  rw [numbered_append, Condition.length_flatMap_roles, Nat.add_comm 1]
  exact hlimit.append_placeholder (r := .limit) rfl hend

end Statement

namespace Description

variable {settings : Settings} {d : Description} {parts : Parts} {q : Compiled}

/-- A search around a place is by distance; any other area is searched by its shape alone. -/
theorem areaCondition_cases (settings : Settings) (t : Table) {g : Geometry} (hg : d.geometry = some g) :
    (∃ x, d.distance? settings = some x ∧ areaCondition settings t g =
      .near t.geometry (.text g.toGeoJson.render) (.double x)) ∨
    (d.distance? settings = none ∧
      (areaCondition settings t g = .touches t.geometry (.text g.toGeoJson.render) ∨
        areaCondition settings t g = .inside t.geometry (.text g.toGeoJson.render))) := by
  rw [distance?, hg, Option.bind_some]
  unfold areaCondition
  cases g with
  | point p => exact Or.inl ⟨_, rfl, rfl⟩
  | circle center radius => exact Or.inl ⟨_, rfl, rfl⟩
  | polygon rings => exact Or.inr ⟨rfl, ite_eq_or_eq _ _ _⟩
  | box low high => exact Or.inr ⟨rfl, ite_eq_or_eq _ _ _⟩

theorem Gives.suits (h : d.Gives settings parts) :
    ∀ c ∈ parts.statement.conditions, c.Suits parts.table := by
  simp only [Parts.statement, List.forall_mem_append]
  refine ⟨⟨?_, ?_⟩, ?_⟩
  · rw [h.times_eq]
    exact List.forall_mem_map.mpr fun _ _ ↦ rfl
  · rw [h.places_eq]
    refine List.forall_mem_map.mpr fun g hg ↦ ?_
    have hcases := areaCondition_cases settings parts.table (Option.mem_toList.mp hg)
    rcases hcases with ⟨_, -, he⟩ | ⟨-, he | he⟩ <;> exact he ▸ rfl
  · rcases h.entities_eq with ⟨-, he⟩ | ⟨entity, column, -, hc, he⟩
    · simp [he]
    · rw [he, List.forall_mem_singleton]
      exact hc

theorem areaCondition_roles (t : Table) {g : Geometry} (hg : d.geometry = some g) :
    (areaCondition settings t g).roles =
      [Role.shape, .distance].filter fun r ↦ (d.value? settings r).isSome := by
  rcases areaCondition_cases settings t hg with ⟨_, hx, he⟩ | ⟨hx, he | he⟩ <;>
    simp [he, Condition.roles, value?, hg, hx]

theorem areaCondition_values (t : Table) {g : Geometry} (hg : d.geometry = some g) :
    (areaCondition settings t g).values.map some =
      (areaCondition settings t g).roles.map (d.value? settings) := by
  rcases areaCondition_cases settings t hg with ⟨_, hx, he⟩ | ⟨hx, he | he⟩ <;>
    simp [he, Condition.values, Condition.roles, value?, hg, hx]

namespace Gives

theorem roles_eq (h : d.Gives settings parts) :
    parts.statement.conditions.flatMap Condition.roles ++ [.limit] = d.roles settings := by
  have htimes : parts.times.flatMap Condition.roles =
      [Role.start, .finish].filter fun r ↦ (d.value? settings r).isSome := by
    rw [h.times_eq]
    cases hr : d.range <;> simp [Condition.roles, value?, hr]
  have hplaces : parts.places.flatMap Condition.roles =
      [Role.shape, .distance].filter fun r ↦ (d.value? settings r).isSome := by
    rw [h.places_eq]
    cases hg : d.geometry with
    | none => simp [value?, distance?, hg]
    | some g => simpa using areaCondition_roles _ hg
  have hentities : parts.entities.flatMap Condition.roles =
      [Role.entity].filter fun r ↦ (d.value? settings r).isSome := by
    rcases h.entities_eq with ⟨hd, he⟩ | ⟨entity, column, hd, -, he⟩ <;>
      simp [he, Condition.roles, value?, hd]
  have hlimit : [Role.limit] = [Role.limit].filter fun r ↦ (d.value? settings r).isSome := rfl
  rw [Parts.statement, List.flatMap_append, List.flatMap_append, htimes, hplaces, hentities, hlimit,
    ← List.filter_append, ← List.filter_append, ← List.filter_append]
  rfl

theorem condition_values (h : d.Gives settings parts) :
    ∀ c ∈ parts.statement.conditions, c.values.map some = c.roles.map (d.value? settings) := by
  simp only [Parts.statement, List.forall_mem_append]
  refine ⟨⟨?_, ?_⟩, ?_⟩
  · rw [h.times_eq]
    refine List.forall_mem_map.mpr fun r hr ↦ ?_
    simp [Condition.values, Condition.roles, value?, Option.mem_toList.mp hr]
  · rw [h.places_eq]
    exact List.forall_mem_map.mpr fun g hg ↦ areaCondition_values _ (Option.mem_toList.mp hg)
  · rcases h.entities_eq with ⟨hd, he⟩ | ⟨entity, column, hd, -, he⟩ <;>
      simp [he, Condition.values, Condition.roles, value?, hd]

theorem values_eq (h : d.Gives settings parts) :
    parts.statement.values.map some = (d.roles settings).map (d.value? settings) := by
  have hlimit : d.value? settings .limit = some (.int parts.limit) := by
    rw [value?, h.limit_eq]
  have hconditions : (parts.statement.conditions.flatMap Condition.values).map some =
      (parts.statement.conditions.flatMap Condition.roles).map (d.value? settings) := by
    rw [List.map_flatMap, List.map_flatMap]
    exact List.flatMap_congr h.condition_values
  rw [← h.roles_eq, List.map_append, ← hconditions, List.map_singleton, hlimit, Statement.values,
    List.map_append]
  rfl

end Gives

/-- The placeholders in the text of a compiled statement are numbered from left to right, one for
each bound value; the text before a placeholder gives it one role, in which the description has the
value that is bound under its number. -/
theorem placeholders_agree (h : d.compile settings = .ok q) :
    (d.assemble settings).run' [] = .ok q ∧
    (slots q.statement).map Slot.text =
      (List.range' 1 q.binds.length).map (fun n ↦ "$" ++ toString n) ∧
    (∃ t, Table.find? d.table = some t ∧
      (slots q.statement).map (Slot.roles t) = (d.roles settings).map fun r ↦ [r]) ∧
    q.binds.map some = (d.roles settings).map (d.value? settings) ∧
    q.binds.getLast? = some (.int q.limit) ∧
    q.limit = d.limit.elim settings.maxRows (min · settings.maxRows) := by
  obtain ⟨parts, hp, rfl⟩ := compile_ok.mp h
  have ht := Table.mem_all_of_find? hp.table
  have hslots : (slots parts.statement.text).map (Slot.mark parts.table) =
      numbered 1 (d.roles settings) := by
    have hshown := Statement.shows_text ht hp.declared hp.suits "" (by decide)
    rw [hp.roles_eq] at hshown
    simpa [slotsAfter, slots] using hshown
  have hlength : parts.statement.values.length = (d.roles settings).length := by
    simpa using congrArg List.length hp.values_eq
  refine ⟨(assemble_eq settings d).trans h, ?_, ⟨parts.table, hp.table, ?_⟩, hp.values_eq, ?_,
    hp.limit_eq⟩
  · have htexts := congrArg (List.map Prod.fst) hslots
    rw [List.map_map, numbered_texts, ← hlength] at htexts
    exact htexts
  · have hroles := congrArg (List.map Prod.snd) hslots
    rw [List.map_map, numbered_roles] at hroles
    exact hroles
  · exact List.getLast?_concat

def everyRole : Description where
  kind := .circle
  table := "drone_trajectory"
  range := some ⟨⟨20000, 0, 0⟩, ⟨20000, 3600, 0⟩⟩
  geometry := some (.circle ⟨1.0, 2.0⟩ 50.0)
  entity := some "$7"
  fields := none
  ordering := [⟨"timestamp", .descending⟩]
  limit := some 5000

theorem placeholders_agree_everyRole : ∃ q, everyRole.compile .standard = .ok q ∧
    (slots q.statement).map Slot.text = ["$1", "$2", "$3", "$4", "$5", "$6"] ∧
    (slots q.statement).map (Slot.roles Table.droneTrajectory) = Role.all.map (fun r ↦ [r]) ∧
    q.binds.map some = Role.all.map (everyRole.value? .standard) ∧ q.limit = 1000 := by
  have hok : (everyRole.compile .standard).isOk := by decide +kernel
  cases hq : everyRole.compile .standard with
  | error e => simp [hq, Except.isOk, Except.toBool] at hok
  | ok q =>
    obtain ⟨-, htexts, ⟨t, ht, hslots⟩, hbinds, -, hlimit⟩ := placeholders_agree hq
    obtain rfl : Table.droneTrajectory = t := Option.some.inj ht
    have hroles : everyRole.roles .standard = Role.all := rfl
    rw [hroles] at hslots hbinds
    have hlength : q.binds.length = 6 := by simpa [Role.all] using congrArg List.length hbinds
    refine ⟨q, rfl, ?_, hslots, hbinds, hlimit⟩
    rw [htexts, hlength]
    rfl

end Description

end FleetControl.Query
