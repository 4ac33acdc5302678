import FleetControl.Proofs.Precedence
import FleetControl.Proofs.Query.Parts

namespace FleetControl.Query

namespace Table

def HasColumn (t : Table) (name : String) : Prop := ∃ c ∈ t.columns, c.name = name

def CanOrder (t : Table) (name : String) : Prop :=
  ∃ c ∈ t.columns, c.name = name ∧ ¬ c.kind.isGeometry

def Lacks (t : Table) (name : String) (e : CompileError) : Prop :=
  ¬ t.HasColumn name ∧ e = .refused (.column t.name name)

inductive Disorders (t : Table) (o : Ordering) : CompileError → Prop where
  | lacking : ¬ t.HasColumn o.column → t.Disorders o (.refused (.column t.name o.column))
  | geometry : t.HasColumn o.column → ¬ t.CanOrder o.column →
      t.Disorders o (.orderByGeometry o.column)

variable {t : Table} {name : String} {c : Column} {o : Ordering} {e : CompileError}

theorem column?_eq_none_iff : t.column? name = none ↔ ¬ t.HasColumn name := by
  simp [column?, HasColumn]

theorem hasColumn_of_column? (h : t.column? name = some c) : t.HasColumn name :=
  ⟨c, mem_columns h, name_of_column? h⟩

theorem find?_name (h : t ∈ all) : find? t.name = some t := by
  revert t
  decide

theorem column?_name (ht : t ∈ all) (hc : c ∈ t.columns) : t.column? c.name = some c := by
  have hall : ∀ t ∈ all, ∀ c ∈ t.columns, t.column? c.name = some c := by decide
  exact hall t ht c hc

theorem canOrder_iff (ht : t ∈ all) (h : t.column? name = some c) :
    t.CanOrder name ↔ ¬ c.kind.isGeometry := by
  constructor
  · rintro ⟨c', hc', rfl, hkind⟩
    rw [column?_name ht hc'] at h
    cases h
    exact hkind
  · exact fun hkind ↦ ⟨c, mem_columns h, name_of_column? h, hkind⟩

theorem CanOrder.hasColumn (h : t.CanOrder name) : t.HasColumn name := by
  obtain ⟨c, hc, rfl, -⟩ := h
  exact ⟨c, hc, rfl⟩

theorem Disorders.unique {e' : CompileError} (h : t.Disorders o e) (h' : t.Disorders o e') :
    e = e' := by
  cases h with
  | lacking hlacks =>
    cases h' with
    | lacking => rfl
    | geometry hcolumn => exact absurd hcolumn hlacks
  | geometry hcolumn =>
    cases h' with
    | lacking hlacks => exact absurd hcolumn hlacks
    | geometry => rfl

theorem kept_field_iff : (∀ e, ¬ t.Lacks name e) ↔ t.HasColumn name := by
  constructor
  · intro h
    by_contra hlacks
    exact h _ ⟨hlacks, rfl⟩
  · exact fun h e he ↦ he.1 h

theorem kept_ordering_iff : (∀ e, ¬ t.Disorders o e) ↔ t.CanOrder o.column := by
  constructor
  · intro h
    by_contra horder
    by_cases hcolumn : t.HasColumn o.column
    · exact h _ (.geometry hcolumn horder)
    · exact h _ (.lacking hcolumn)
  · rintro h e (hlacks | ⟨-, horder⟩)
    · exact hlacks h.hasColumn
    · exact horder h

end Table

/-- What is required of a description, each by its own name. -/
inductive Requirement where
  | table
  | range
  | area
  | kind
  | entity
  | fields
  | ordering
  | limit
deriving DecidableEq

def Requirement.all : List Requirement :=
  [.table, .range, .area, .kind, .entity, .fields, .ordering, .limit]

theorem Requirement.mem_all (r : Requirement) : r ∈ all := by
  cases r <;> decide

def Description.Names (d : Description) (t : Table) : Prop := t ∈ Table.all ∧ t.name = d.table

/-- The description meets the requirement. What is left out of a description meets all that is required
of it. -/
def Requirement.Met (d : Description) : Requirement → Prop
  | .table => ∃ t, d.Names t
  | .range => ∀ r ∈ d.range, r.start.rank ≤ r.finish.rank
  | .area => ∀ g ∈ d.geometry, g.check = .ok ()
  | .kind => ∀ g ∈ d.geometry, g.fits d.kind
  | .entity => ∀ t, d.Names t → d.entity ≠ none → t.entity ≠ none
  | .fields => ∀ t, d.Names t → ∀ names ∈ d.fields, ∀ name ∈ names, t.HasColumn name
  | .ordering => ∀ t, d.Names t → ∀ o ∈ d.ordering, t.CanOrder o.column
  | .limit => d.limit ≠ some 0

inductive Requirement.Broken (d : Description) : Requirement → CompileError → Prop where
  | table : (∀ t, ¬ d.Names t) → Broken d .table (.refused (.table d.table))
  | range {r} : d.range = some r → r.finish.rank < r.start.rank → Broken d .range (.backwards r)
  | area {g p} : d.geometry = some g → g.check = .error p → Broken d .area (.geometry p)
  | kind {g} : d.geometry = some g → ¬ g.fits d.kind → Broken d .kind (.wrongGeometry d.kind)
  | entity {t} : d.Names t → d.entity ≠ none → t.entity = none → Broken d .entity (.noEntity t.name)
  | fields {t names e} : d.Names t → d.fields = some names → FirstBroken t.Lacks names e →
      Broken d .fields e
  | ordering {t e} : d.Names t → FirstBroken t.Disorders d.ordering e → Broken d .ordering e
  | limit : d.limit = some 0 → Broken d .limit .zeroLimit

namespace Description

variable {t t' : Table} {d : Description}

theorem names_iff : d.Names t ↔ Table.find? d.table = some t := by
  constructor
  · rintro ⟨ht, hname⟩
    rw [← hname, Table.find?_name ht]
  · exact fun h ↦ ⟨Table.mem_all_of_find? h, Table.name_of_find? h⟩

theorem Names.unique (h : d.Names t) (h' : d.Names t') : t = t' :=
  Option.some.inj ((names_iff.mp h).symm.trans (names_iff.mp h'))

end Description

namespace Requirement

variable {d : Description} {t : Table} {e e' : CompileError}

theorem Broken.unique {r : Requirement} (h : r.Broken d e) (h' : r.Broken d e') : e = e' := by
  cases h with
  | table => cases h'; rfl
  | range hr =>
    cases h' with
    | range hr' => rw [Option.some.inj (hr.symm.trans hr')]
  | area hg hp =>
    cases h' with
    | area hg' hp' =>
      obtain rfl := Option.some.inj (hg.symm.trans hg')
      rw [Except.error.inj (hp.symm.trans hp')]
  | kind => cases h'; rfl
  | entity ht =>
    cases h' with
    | entity ht' => rw [ht.unique ht']
  | fields ht hnames hfirst =>
    cases h' with
    | fields ht' hnames' hfirst' =>
      obtain rfl := ht.unique ht'
      obtain rfl := Option.some.inj (hnames.symm.trans hnames')
      exact hfirst.unique (fun _ _ _ h h' ↦ h.2.trans h'.2.symm) hfirst'
  | ordering ht hfirst =>
    cases h' with
    | ordering ht' hfirst' =>
      obtain rfl := ht.unique ht'
      exact hfirst.unique (fun _ _ _ h h' ↦ h.unique h') hfirst'
  | limit => cases h'; rfl

theorem met_iff (r : Requirement) : r.Met d ↔ ∀ e, ¬ r.Broken d e := by
  constructor
  · intro h e he
    cases he with
    | table hno =>
      obtain ⟨t, ht⟩ := h
      exact hno t ht
    | range hr hlt => exact absurd (h _ hr) (Int.not_le.mpr hlt)
    | area hg hp =>
      rw [h _ hg] at hp
      cases hp
    | kind hg hfits => exact hfits (h _ hg)
    | entity ht hasked hnone => exact h _ ht hasked hnone
    | fields ht hnames hfirst =>
      refine not_firstBroken_iff.mpr (fun name hname ↦ ?_) e hfirst
      exact Table.kept_field_iff.mpr (h _ ht _ hnames name hname)
    | ordering ht hfirst =>
      refine not_firstBroken_iff.mpr (fun o ho ↦ ?_) e hfirst
      exact Table.kept_ordering_iff.mpr (h _ ht o ho)
    | limit hzero => exact h hzero
  · intro h
    cases r with
    | table =>
      by_contra hno
      exact h _ (.table (not_exists.mp hno))
    | range =>
      intro r hr
      by_contra hlt
      exact h _ (.range hr (Int.not_le.mp hlt))
    | area =>
      intro g hg
      cases hp : g.check with
      | error p => exact absurd (.area hg hp) (h _)
      | ok _ => rfl
    | kind =>
      intro g hg
      by_contra hfits
      exact h _ (.kind hg hfits)
    | entity =>
      intro t ht hasked hnone
      exact h _ (.entity ht hasked hnone)
    | fields =>
      intro t ht names hnames name hname
      have hkept := not_firstBroken_iff.mp fun e he ↦ h e (.fields ht hnames he)
      exact Table.kept_field_iff.mp (hkept name hname)
    | ordering =>
      intro t ht o ho
      have hkept := not_firstBroken_iff.mp fun e he ↦ h e (.ordering ht he)
      exact Table.kept_ordering_iff.mp (hkept o ho)
    | limit => exact fun hzero ↦ h _ (.limit hzero)

variable {α : Type} {r : Requirement} {rules : List Requirement} {x : Except CompileError α}

theorem Broken.judges (h : r.Broken d e) :
    Judges (Broken d) (r :: rules) (.error e : Except CompileError α) :=
  judges_error h fun _ h' ↦ h'.unique h

theorem judges_of_met (h : r.Met d) (hx : Judges (Broken d) rules x) :
    Judges (Broken d) (r :: rules) x :=
  hx.cons ((met_iff r).mp h)

end Requirement

namespace Description

open Requirement (Met Broken judges_of_met)

variable {settings : Settings} {t t' : Table} {d : Description}

theorem judges_rangeCondition : Judges (Broken d) [.range] (d.rangeCondition t) := by
  unfold rangeCondition
  cases hr : d.range with
  | none =>
    have hmet : Met d .range := by simp [Met, hr]
    exact judges_of_met hmet (judges_ok _)
  | some r =>
    simp only
    split
    case isTrue hlt => exact Broken.judges (.range hr (by simpa [Instant.before] using hlt))
    case isFalse hlt =>
      have hmet : Met d .range := by simpa [Met, hr, Instant.before] using hlt
      exact judges_of_met hmet (judges_ok _)

/-- The area is looked at before it is asked whether it goes with the kind of search. -/
theorem judges_geometryCondition :
    Judges (Broken d) [.area, .kind] (d.geometryCondition settings t) := by
  unfold geometryCondition
  cases hg : d.geometry with
  | none =>
    have harea : Met d .area := by simp [Met, hg]
    have hkind : Met d .kind := by simp [Met, hg]
    exact judges_of_met harea (judges_of_met hkind (judges_ok _))
  | some g =>
    simp only
    cases hp : g.check with
    | error p => exact Broken.judges (.area hg hp)
    | ok _ =>
      have harea : Met d .area := by simpa [Met, hg] using hp
      refine judges_of_met harea ?_
      simp only
      split
      case isTrue hfits =>
        have hkind : Met d .kind := by simpa [Met, hg] using hfits
        exact judges_of_met hkind (judges_ok _)
      case isFalse hfits => exact Broken.judges (.kind hg hfits)

theorem judges_entityCondition (ht : d.Names t) :
    Judges (Broken d) [.entity] (d.entityCondition t) := by
  unfold entityCondition
  cases hentity : d.entity with
  | none =>
    have hmet : Met d .entity := by simp [Met, hentity]
    exact judges_of_met hmet (judges_ok _)
  | some entity =>
    simp only
    cases hcolumn : t.entity with
    | none => exact Broken.judges (.entity ht (by simp [hentity]) hcolumn)
    | some column =>
      have hmet : Met d .entity := by
        intro t' ht' _
        simp [← ht.unique ht', hcolumn]
      exact judges_of_met hmet (judges_ok _)

theorem judges_columnsOf (names : List String) : Judges t.Lacks names (columnsOf t names) := by
  induction names with
  | nil => exact judges_ok []
  | cons name names ih =>
    unfold columnsOf
    cases hc : t.column? name with
    | none => exact judges_error ⟨Table.column?_eq_none_iff.mp hc, rfl⟩ fun e h ↦ h.2
    | some c =>
      have hcolumn : t.HasColumn name := Table.hasColumn_of_column? hc
      exact (ih.map _).cons (Table.kept_field_iff.mpr hcolumn)

theorem judges_selected (ht : d.Names t) : Judges (Broken d) [.fields] (d.selected t) := by
  refine judges_rule fun e ↦ ?_
  constructor
  · intro h
    unfold selected at h
    split at h
    · cases h
    · cases h
    case h_3 fields _ hfields => exact .fields ht hfields ((judges_columnsOf fields e).mp h)
  · intro h
    cases h with
    | @fields t' names _ ht' hnames hfirst =>
      obtain rfl := ht.unique ht'
      cases names with
      | nil => exact absurd hfirst firstBroken_nil
      | cons name names =>
        simp only [selected, hnames]
        exact (judges_columnsOf _ e).mpr hfirst

theorem judges_orderingsOf (ht : t ∈ Table.all) (asked : List Ordering) :
    Judges t.Disorders asked (orderingsOf t asked) := by
  induction asked with
  | nil => exact judges_ok []
  | cons o asked ih =>
    unfold orderingsOf
    cases hc : t.column? o.column with
    | none =>
      have hlacks : ¬ t.HasColumn o.column := Table.column?_eq_none_iff.mp hc
      exact judges_error (.lacking hlacks) fun e h ↦ h.unique (.lacking hlacks)
    | some c =>
      have hcolumn : t.HasColumn o.column := Table.hasColumn_of_column? hc
      have horder := Table.canOrder_iff ht hc
      simp only
      split
      case isTrue hkind =>
        have hplaces : t.Disorders o (.orderByGeometry c.name) := by
          rw [Table.name_of_column? hc]
          exact .geometry hcolumn fun hcan ↦ horder.mp hcan hkind
        exact judges_error hplaces fun e h ↦ h.unique hplaces
      case isFalse hkind => exact (ih.map _).cons (Table.kept_ordering_iff.mpr (horder.mpr hkind))

theorem judges_orderings (ht : d.Names t) : Judges (Broken d) [.ordering] (d.orderings t) := by
  refine judges_rule fun e ↦ ?_
  constructor
  · intro h
    unfold orderings at h
    split at h
    · cases h
    · exact .ordering ht ((judges_orderingsOf ht.1 _ e).mp h)
  · intro h
    cases h with
    | ordering ht' hfirst =>
      obtain rfl := ht.unique ht'
      unfold orderings
      split
      case h_1 hnone =>
        rw [hnone] at hfirst
        exact absurd hfirst firstBroken_nil
      case h_2 => exact (judges_orderingsOf ht.1 _ e).mpr hfirst

theorem judges_rowLimit : Judges (Broken d) [.limit] (d.rowLimit settings) := by
  unfold rowLimit
  split
  case h_1 hlimit =>
    have hmet : Met d .limit := by simp [Met, hlimit]
    exact judges_of_met hmet (judges_ok _)
  case h_2 hlimit => exact Broken.judges (.limit hlimit)
  case h_3 n hzero hlimit =>
    have hmet : Met d .limit := by simpa [Met, hlimit] using hzero
    exact judges_of_met hmet (judges_ok _)

theorem judges_statement : Judges (Broken d) Requirement.all (d.statement settings) := by
  have hall : Requirement.all = [.table] ++ ([.range] ++ ([.area, .kind] ++ ([.entity] ++ ([.fields] ++
    ([.ordering] ++ ([.limit] ++ [])))))) := rfl
  rw [hall]
  unfold statement
  cases hfind : Table.find? d.table with
  | none =>
    have hno : ∀ t, ¬ d.Names t := fun t ht ↦ by simp [names_iff.mp ht] at hfind
    exact Judges.bind (Broken.judges (.table hno)) fun t ht ↦ (by cases ht)
  | some t =>
    have hnames : d.Names t := names_iff.mpr hfind
    have hmet : Met d .table := ⟨t, hnames⟩
    refine Judges.bind (judges_of_met hmet (judges_ok t)) fun t' ht' ↦ ?_
    obtain rfl : t = t' := Except.ok.inj ht'
    refine judges_rangeCondition.bind fun times _ ↦ ?_
    refine judges_geometryCondition.bind fun places _ ↦ ?_
    refine (judges_entityCondition hnames).bind fun entities _ ↦ ?_
    refine (judges_selected hnames).bind fun columns _ ↦ ?_
    refine (judges_orderings hnames).bind fun ordering _ ↦ ?_
    exact judges_rowLimit.bind fun limit _ ↦ judges_ok _

theorem judges_compile : Judges (Broken d) Requirement.all (d.compile settings) := by
  have hmap : d.compile settings = (d.statement settings).map
      fun r ↦ ⟨r.1.table, r.1.text, r.1.values, r.1.columns, r.2⟩ := by
    unfold compile
    cases d.statement settings <;> rfl
  rw [hmap]
  exact judges_statement.map _

/-- A description compiles just if it meets every requirement. Otherwise the error is that of the first
requirement in order that it does not meet. -/
theorem compile_verdict (settings : Settings) (d : Description) :
    ((∃ q, d.compile settings = .ok q) ↔ ∀ r : Requirement, r.Met d) ∧
      ∀ e, d.compile settings = .error e ↔
        ∃ earlier r later, Requirement.all = earlier ++ r :: later ∧
          (∀ r' ∈ earlier, r'.Met d) ∧ ¬ r.Met d ∧ r.Broken d e := by
  refine ⟨?_, fun e ↦ judges_compile.error_iff Requirement.met_iff⟩
  rw [judges_compile.ok_iff Requirement.met_iff]
  exact forall_congr' fun r ↦ forall_prop_of_true r.mem_all

end Description

end FleetControl.Query
