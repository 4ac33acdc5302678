import FleetControl.Proofs.Query.Pieces
import FleetControl.Query.Result

namespace FleetControl.Query

open Scan (Calm)

theorem calm_number (n : ℕ) : Calm (toString n).toList := by
  constructor
  · intro c hc
    have hd := Text.isDigit_of_mem_number hc
    refine ⟨?_, ?_, ?_⟩ <;> (rintro rfl; simp at hd)
  · rw [Text.runs_number, List.forall_mem_singleton]
    exact fun word hw ↦ Scan.letters?_digits hw fun _ hc ↦ Text.isDigit_of_mem_number hc

theorem Made.calm {names : List String} {cs : List Char} (h : Made names cs)
    (hnames : ∀ s ∈ names, Calm s.toList) : Calm cs := by
  induction h with
  | nil => decide
  | fixed hs =>
    have hall : ∀ s ∈ fixedPieces, Calm s.toList := by decide +kernel
    exact hall _ hs
  | number n => exact calm_number n
  | name hs => exact hnames _ hs
  | append hcs hds hseam ihcs ihds => exact ihcs.append ihds hseam

/-- The names of the schema nearly match keywords, as `updated_at` does, but none is one. -/
theorem Table.calm_names {t : Table} (ht : t ∈ Table.all) :
    Calm t.name.toList ∧ ∀ name ∈ t.names, Calm name.toList := by
  revert t
  decide +kernel

namespace Statement

variable {α : Type} {t : Table} {s : Statement α}

theorem calm_text (ht : t ∈ Table.all) (h : s.Declared t) : Calm s.text.toList :=
  h.made.calm (List.forall_mem_cons.mpr (Table.calm_names ht))

theorem selects_text (s : Statement α) : Scan.selects s.text.toList = true := by
  unfold text
  simp only [String.append_assoc]
  rw [String.toList_append]
  rfl

theorem checkStatement_text (ht : t ∈ Table.all) (h : s.Declared t) :
    Scan.checkStatement s.text = .ok () := by
  have hnone : (Scan.Pattern.all.find? fun p ↦ p.occursIn s.text.toList) = none :=
    List.find?_eq_none.mpr fun p _ ↦ by simp [(calm_text ht h).occursIn p]
  simp only [Scan.checkStatement, hnone, selects_text, if_true]

end Statement

namespace Description

variable {settings : Settings} {d : Description} {parts : Parts}

theorem Gives.check (h : d.Gives settings parts) : parts.compiled.check = .ok () := by
  have hs := Statement.checkStatement_text (Table.mem_all_of_find? h.table) h.declared
  have hfind : Table.find? parts.table.name = some parts.table := by
    have hall : ∀ t ∈ Table.all, Table.find? t.name = some t := by decide
    exact hall _ (Table.mem_all_of_find? h.table)
  simp only [Compiled.check, Scan.check, Parts.compiled, hfind]
  exact hs

/-- The scan refuses nothing that was compiled, so a query is prepared whenever its description
compiles, and otherwise fails for the reason for which the description does not compile. -/
theorem prepare_eq_compile (settings : Settings) (d : Description) :
    (∀ q, d.compile settings = .ok q → q.check = .ok ()) ∧
      d.prepare settings = (d.compile settings).mapError Service.Error.ofCompile := by
  have hcheck : ∀ q, d.compile settings = .ok q → q.check = .ok () := by
    intro q hq
    obtain ⟨parts, hp, rfl⟩ := compile_ok.mp hq
    exact hp.check
  refine ⟨hcheck, ?_⟩
  unfold prepare
  cases hq : d.compile settings with
  | error e => rfl
  | ok q => simp only [hcheck q hq]; rfl

def nearMiss : Description where
  kind := .box
  table := "geo_fence"
  range := some ⟨⟨20000, 0, 0⟩, ⟨20000, 3600, 0⟩⟩
  geometry := some (.box ⟨0.0, 0.0⟩ ⟨1.0, 1.0⟩)
  entity := none
  fields := some ["updated_at", "boundary", "updated_at", "description"]
  ordering := [⟨"updated_at", .descending⟩, ⟨"created_at", .ascending⟩, ⟨"updated_at", .ascending⟩]
  limit := some 10

theorem prepare_eq_compile_nearMiss : ∃ q, nearMiss.compile .standard = .ok q ∧
    q.check = .ok () ∧ nearMiss.prepare .standard = .ok q := by
  have hok : (nearMiss.compile .standard).isOk := by decide +kernel
  cases hq : nearMiss.compile .standard with
  | error e => simp [hq, Except.isOk, Except.toBool] at hok
  | ok q =>
    obtain ⟨hcheck, hprepare⟩ := prepare_eq_compile .standard nearMiss
    exact ⟨q, rfl, hcheck q hq, by rw [hprepare, hq]; rfl⟩

end Description

end FleetControl.Query
