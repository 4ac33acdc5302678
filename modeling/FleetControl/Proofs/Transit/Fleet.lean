import FleetControl.Proofs.Json.Given
import FleetControl.Proofs.Transit.Places

namespace FleetControl

open Json (Sendable)
open Json.Record (reads_present gives_pure gives_required gives_optional gives_defaulted gives_some)
open Json.Reader (takes_text takes_natBelow takes_double takes_instant takes_identifier takes_list
  takes_variant takes_option takes_fields takes_any? takes_tagged gives_natBelow gives_fields
  gives_option gives_any? gives_tagged)
open Transit

namespace Device

variable {d : Device}

theorem sendable (h : Survive d.leaves) : Sendable 2 d.toJson := by
  simp only [leaves, survive_append, survive_option_flatMap, survive_option_map,
    survives_double] at h
  obtain ⟨⟨hlocation, hbattery⟩, -⟩ := h
  refine .ofEntries ?_
  simp only [List.forall_mem_cons]
  refine ⟨.text _, .text _, .text _, .option fun p hp ↦ Geo.Point.sendable (hlocation p hp),
    .option fun x hx ↦ .double (hbattery x hx), .text _, .list fun v hv ↦ ?_,
    List.forall_mem_nil _⟩
  obtain ⟨s, -, rfl⟩ := List.mem_map.mp hv
  exact .text s

theorem takes (h : Survive d.leaves) (hsorted : sortNames d.capabilities = d.capabilities) :
    reader.Takes d.toJson d := by
  simp only [leaves, survive_append, survive_option_flatMap, survive_option_map,
    survives_double, survive_cons] at h
  obtain ⟨⟨hlocation, hbattery⟩, hseen, -⟩ := h
  have hkind : Kind.names.lookup d.kind.name = some d.kind := by cases d.kind <;> rfl
  have hstatus : Status.names.lookup d.status.name = some d.status := by cases d.status <;> rfl
  have hread : reader.Takes d.toJson { d with capabilities := sortNames d.capabilities } := by
    refine Json.Record.takes_reader (fun source ↦ ?_) _
    refine (((((((reads_present ?_ (takes_text d.id)).map _).seq
      (reads_present ?_ (takes_variant hkind))).seq (reads_present ?_ (takes_variant hstatus))).seq
      (reads_present ?_ (takes_option fun p hp ↦
        ⟨Geo.Point.takes (hlocation p hp), Json.noConfusion⟩))).seq
      (reads_present ?_ (takes_option fun x hx ↦
        ⟨takes_double (hbattery x hx), Json.Reader.double_ne_null (hbattery x hx)⟩))).seq
      (reads_present ?_ (takes_instant hseen))).seq
      ((reads_present ?_ (takes_list fun s _ ↦ takes_text s)).map sortNames) <;>
    simp [List.lookup_cons]
  rwa [hsorted] at hread

theorem insertName_of_forall_lt {name : String} {names : List String} (h : ∀ n ∈ names, name < n) :
    insertName name names = name :: names := by
  cases names with
  | nil => rfl
  | cons n rest => rw [insertName, if_pos (h n List.mem_cons_self)]

theorem mem_insertName {name n : String} {names : List String} (h : n ∈ insertName name names) :
    n = name ∨ n ∈ names := by
  induction names with
  | nil => exact Or.inl (List.mem_singleton.mp h)
  | cons m rest ih =>
    rw [insertName] at h
    split at h
    · exact List.mem_cons.mp h
    · split at h
      · exact Or.inr h
      · rcases List.mem_cons.mp h with rfl | h
        · exact Or.inr List.mem_cons_self
        · exact (ih h).imp_right (List.mem_cons_of_mem _)

theorem pairwise_insertName {names : List String} (h : names.Pairwise (· < ·)) (name : String) :
    (insertName name names).Pairwise (· < ·) := by
  induction names with
  | nil => exact List.pairwise_singleton _ _
  | cons n rest ih =>
    obtain ⟨hfirst, hrest⟩ := List.pairwise_cons.mp h
    rw [insertName]
    split
    next hlt =>
      refine List.pairwise_cons.mpr ⟨fun m hm ↦ ?_, h⟩
      rcases List.mem_cons.mp hm with rfl | hm
      · exact hlt
      · exact String.lt_trans hlt (hfirst m hm)
    next hlt =>
      split
      next => exact h
      next hne =>
        have hgt : n < name :=
          String.not_le.mp fun hle ↦ hne (String.le_antisymm hle (String.not_lt.mp hlt))
        refine List.pairwise_cons.mpr ⟨fun m hm ↦ ?_, ih hrest⟩
        rcases mem_insertName hm with rfl | hm
        · exact hgt
        · exact hfirst m hm

theorem pairwise_sortNames (names : List String) : (sortNames names).Pairwise (· < ·) := by
  induction names with
  | nil => exact List.Pairwise.nil
  | cons name rest ih => exact pairwise_insertName ih name

theorem sortNames_of_pairwise {names : List String} (h : names.Pairwise (· < ·)) :
    sortNames names = names := by
  induction names with
  | nil => rfl
  | cons name rest ih =>
    obtain ⟨hfirst, hrest⟩ := List.pairwise_cons.mp h
    change insertName name (sortNames rest) = name :: rest
    rw [ih hrest, insertName_of_forall_lt hfirst]

theorem given : reader.Gives fun _ d ↦ sortNames d.capabilities = d.capabilities := by
  have hcapabilities : (sortNames <$> Json.Record.defaulted "capabilities" (.list .text) []).Gives
      fun _ names ↦ sortNames names = names :=
    Json.Record.Gives.map sortNames gives_some fun _ names _ ↦
      sortNames_of_pairwise (pairwise_sortNames names)
  refine Json.Record.Gives.reader (.seq ?_ hcapabilities) _
  refine .seq (.seq (.seq (.seq (.seq (.map _ gives_some ?_) gives_some) gives_some) gives_some)
    gives_some) gives_some
  exact fun k id _ kind _ status _ location _ battery _ seen _ names hnames ↦ hnames

end Device

namespace Command

theorem Action.lookup_name (a : Action) : names.lookup a.name = some a := by
  cases a <;> decide

namespace Failure

variable {e : Failure}

def Fits : Failure → Prop
  | .unreachable n _ | .deadline n => n < UInt32.size
  | .rejected _ => True

theorem sendable (h : Survive e.leaves) : Sendable 1 e.toJson := by
  cases e with
  | unreachable n s =>
    simp only [leaves, survive_cons, survives_nat] at h
    refine .ofEntries ?_
    simp only [List.forall_mem_cons]
    exact ⟨.text _, .number h.1, .text _, List.forall_mem_nil _⟩
  | rejected s =>
    refine .ofEntries ?_
    simp only [List.forall_mem_cons]
    exact ⟨.text _, .text _, List.forall_mem_nil _⟩
  | deadline n =>
    simp only [leaves, survive_cons, survives_nat] at h
    refine .ofEntries ?_
    simp only [List.forall_mem_cons]
    exact ⟨.text _, .number h.1, List.forall_mem_nil _⟩

theorem takes (h : Survive e.leaves) (hfits : e.Fits) : reader.Takes e.toJson e := by
  have hordered := (sendable h).ordered
  cases e with
  | unreachable n s =>
    refine takes_tagged "device_unreachable" hordered (by simp [List.lookup_cons]) rfl
      fun source fields hlookup ↦ ?_
    refine ((reads_present ((hlookup "attempts" (by decide)).trans ?_)
      (takes_natBelow hfits _)).map _).seq
      (reads_present ((hlookup "last_error" (by decide)).trans ?_) (takes_text s)) <;>
    simp [List.lookup_cons]
  | rejected s =>
    refine takes_tagged "device_rejected" hordered (by simp [List.lookup_cons]) rfl
      fun source fields hlookup ↦ ?_
    refine (reads_present ((hlookup "message" (by decide)).trans ?_) (takes_text s)).map _
    simp
  | deadline n =>
    refine takes_tagged "deadline_exceeded" hordered (by simp [List.lookup_cons]) rfl
      fun source fields hlookup ↦ ?_
    refine (reads_present ((hlookup "attempts" (by decide)).trans ?_) (takes_natBelow hfits _)).map _
    simp

theorem given : reader.Gives fun _ e ↦ e.Fits := by
  refine gives_tagged ?_
  simp only [List.forall_mem_cons]
  refine ⟨?_, ?_, ?_, List.forall_mem_nil _⟩
  · refine Json.Record.Gives.reader (.seq (.map _ (gives_required (gives_natBelow _ _)) ?_)
      gives_some) _
    exact fun k n hn s _ ↦ hn
  · refine Json.Record.Gives.reader (.map _ gives_some ?_) _
    exact fun k s _ ↦ trivial
  · refine Json.Record.Gives.reader (.map _ (gives_required (gives_natBelow _ _)) ?_) _
    exact fun k n hn ↦ hn

end Failure

namespace Record

variable {r : Record} {k : ℕ}

/-- What a record has to have to be read again: its numbers fit, and the JSON values in it have their
keys in order and are nested within `k`. -/
structure Sound (k : ℕ) (r : Record) : Prop where
  priority : r.priority < UInt8.size
  attempts : r.attempts < UInt32.size
  parameters : (Json.object r.parameters).inOrder = true ∧ (Json.object r.parameters).within k = true
  result : ∀ v, r.result = some v → v.inOrder = true ∧ v.within k = true
  error : ∀ e, r.error = some e → e.Fits

/-- The record as a reader finds it, to whom null is no result. -/
def told (r : Record) : Record := { r with result := r.result.filter fun v ↦ !v.isNull }

theorem sendable (hs : Sound k r) (h : Survive r.leaves) : Sendable (max k 1 + 1) r.toJson := by
  simp only [leaves, survive_append, survive_cons, survive_option_map, survive_option_flatMap,
    survive_leavesOf, survives_nat] at h
  obtain ⟨⟨⟨⟨⟨⟨-, hpriority, -, hattempts, -⟩, hparameters⟩, -⟩, -⟩, hresult⟩, herror⟩ := h
  have hvalue : Sendable k (r.result.getD .null) := by
    cases hr : r.result with
    | none => exact .null
    | some v => exact ⟨(hs.result v hr).1, (hs.result v hr).2, hresult v hr⟩
  have hobject : Sendable k (.object r.parameters) :=
    ⟨hs.parameters.1, hs.parameters.2, hparameters⟩
  refine .ofEntries ?_
  simp only [List.forall_mem_cons]
  exact ⟨.text _, .text _, .text _, hobject.mono (Nat.le_max_left k 1), .number hpriority, .text _,
    .text _, .option fun _ _ ↦ .text _, .option fun _ _ ↦ .text _, .number hattempts,
    hvalue.mono (Nat.le_max_left k 1),
    .option fun e he ↦ (Failure.sendable (herror e he)).mono (Nat.le_max_right k 1),
    List.forall_mem_nil _⟩

theorem takes (hs : Sound k r) (h : Survive r.leaves) : reader.Takes r.toJson r.told := by
  simp only [leaves, survive_append, survive_cons, survive_option_map, survive_option_flatMap] at h
  obtain ⟨⟨⟨⟨⟨⟨hid, -, hcreated, -⟩, -⟩, hstarted⟩, hcompleted⟩, -⟩, herror⟩ := h
  have hstatus : Status.names.lookup r.status.name = some r.status := by cases r.status <;> rfl
  refine Json.Record.takes_reader (fun source ↦ ?_) _
  refine ((((((((((((reads_present ?_ (takes_identifier hid)).map _).seq
    (reads_present ?_ (takes_text r.device))).seq
    (reads_present ?_ (takes_variant r.action.lookup_name))).seq
    (reads_present ?_ (takes_fields hs.parameters.1))).seq
    (reads_present ?_ (takes_natBelow hs.priority _))).seq
    (reads_present ?_ (takes_variant hstatus))).seq
    (reads_present ?_ (takes_instant hcreated))).seq
    (reads_present ?_ (takes_option fun t ht ↦
      ⟨takes_instant (hstarted t ht), Json.noConfusion⟩))).seq
    (reads_present ?_ (takes_option fun t ht ↦
      ⟨takes_instant (hcompleted t ht), Json.noConfusion⟩))).seq
    (reads_present ?_ (takes_natBelow hs.attempts _))).seq
    (reads_present ?_ (takes_any? fun v hv ↦ (hs.result v hv).1))).seq
    (reads_present ?_ (takes_option fun e he ↦
      ⟨Failure.takes (herror e he) (hs.error e he), by cases e <;> exact Json.noConfusion⟩)) <;>
  simp [List.lookup_cons]

theorem given : reader.Gives fun k r ↦ Sound (k - 1) r ∧ r.told = r := by
  refine Json.Record.Gives.reader ?_ _
  refine .seq (.seq (.seq (.seq (.seq (.seq (.seq (.seq (.seq (.seq (.seq (.map _
    gives_some ?_) gives_some) gives_some) (gives_required gives_fields))
    (gives_required (gives_natBelow _ _))) gives_some) gives_some) gives_some) gives_some)
    (gives_required (gives_natBelow _ _)))
    (gives_optional gives_any? fun _ _ h ↦ nomatch h))
    (gives_optional (gives_option Failure.given) fun _ _ h ↦ nomatch h)
  intro k id _ device _ action _ parameters hparameters priority hpriority status _ created _
    started _ completed _ attempts hattempts result hresult error herror
  refine ⟨⟨hpriority, hattempts, hparameters, fun v hv ↦ (hresult v hv).2, herror⟩, ?_⟩
  rw [told, Json.Reader.filter_of_not_isNull fun v hv ↦ (hresult v hv).1]

end Record

end Command

end FleetControl
