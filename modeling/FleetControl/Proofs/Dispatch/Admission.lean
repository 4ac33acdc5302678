import FleetControl.Proofs.Precedence
import FleetControl.Proofs.Dispatch.Changes

namespace FleetControl.Command.Action

theorem ofName?_eq_some_iff {name : String} {a : Action} :
    ofName? name = some a ↔ a.name = name := by
  constructor
  · intro h
    simpa using List.find?_some h
  · rintro rfl
    cases a <;> decide

theorem name_injective {a b : Action} (h : a.name = b.name) : a = b :=
  Option.some.inj ((ofName?_eq_some_iff.mpr rfl).symm.trans (ofName?_eq_some_iff.mpr h.symm))

end FleetControl.Command.Action

namespace FleetControl.Dispatch

open Command (Action)

inductive Rule where
  | action
  | allowed
  | priority
  | device
  | confirmation
deriving DecidableEq

namespace Rule

def all : List Rule := [.action, .allowed, .priority, .device, .confirmation]

theorem mem_all (r : Rule) : r ∈ all := by
  cases r <;> decide

def kind : Rule → String
  | .action => "unknown_action"
  | .allowed => "action_not_allowed"
  | .priority => "invalid_parameter"
  | .device => "invalid_parameter"
  | .confirmation => "confirmation_required"

/-- The submission keeps the rule. What is said of its action is said of the action of that name. -/
def Kept (settings : Settings) (s : Submission) : Rule → Prop
  | .action => ∃ a : Action, a.name = s.action
  | .allowed => ∀ a : Action, a.name = s.action →
      ∀ actions, settings.allowed = some actions → a ∈ actions
  | .priority => 1 ≤ s.priority.getD 5 ∧ s.priority.getD 5 ≤ 10
  | .device => (∃ c ∈ s.device.toList, Text.isBlank c = false) ∧ s.device ≠ "." ∧ s.device ≠ ".." ∧
      ∀ c ∈ s.device.toList, Text.isControl c = false
  | .confirmation => ∀ a : Action, a.name = s.action → a ∈ settings.confirmed → s.confirmed = true

inductive Broken (settings : Settings) (s : Submission) : Rule → Service.Error → Prop where
  | action : (∀ a : Action, a.name ≠ s.action) → Broken settings s .action (.unknownAction s.action)
  | allowed {a : Action} {actions} : a.name = s.action → settings.allowed = some actions →
      a ∉ actions → Broken settings s .allowed (.notAllowed a)
  | priority : ¬ (1 ≤ s.priority.getD 5 ∧ s.priority.getD 5 ≤ 10) →
      Broken settings s .priority
        (.parameter ("priority must be in [1, 10], got " ++ toString (s.priority.getD 5)))
  | blank : (∀ c ∈ s.device.toList, Text.isBlank c = true) →
      Broken settings s .device (.parameter "device id cannot be empty")
  | device : (∃ c ∈ s.device.toList, Text.isBlank c = false) →
      (s.device = "." ∨ s.device = ".." ∨ ∃ c ∈ s.device.toList, Text.isControl c = true) →
      Broken settings s .device (.parameter ("invalid device id " ++ Text.quoted s.device))
  | confirmation {a : Action} : a.name = s.action → a ∈ settings.confirmed → s.confirmed = false →
      Broken settings s .confirmation (.confirmation a)

variable {settings : Settings} {s : Submission} {e e' : Service.Error}

theorem kind_of_broken {r : Rule} (h : r.Broken settings s e) : e.kind = r.kind := by
  cases h <;> rfl

theorem not_blank {cs : List Char} (hsome : ∃ c ∈ cs, Text.isBlank c = false) :
    ¬ ∀ c ∈ cs, Text.isBlank c = true := by
  intro hall
  obtain ⟨c, hc, hb⟩ := hsome
  rw [hall c hc] at hb
  cases hb

theorem Broken.unique {r : Rule} (h : r.Broken settings s e) (h' : r.Broken settings s e') :
    e = e' := by
  cases h with
  | action => cases h'; rfl
  | allowed hname =>
    cases h' with
    | allowed hname' => rw [Action.name_injective (hname.trans hname'.symm)]
  | priority => cases h'; rfl
  | blank hall =>
    cases h' with
    | blank => rfl
    | device hsome => exact (not_blank hsome hall).elim
  | device hsome =>
    cases h' with
    | blank hall => exact (not_blank hsome hall).elim
    | device => rfl
  | confirmation hname =>
    cases h' with
    | confirmation hname' => rw [Action.name_injective (hname.trans hname'.symm)]

theorem kept_iff (r : Rule) : r.Kept settings s ↔ ∀ e, ¬ r.Broken settings s e := by
  constructor
  · intro h e he
    cases he with
    | action hno =>
      obtain ⟨a, ha⟩ := h
      exact hno a ha
    | allowed hname hallowed hnot => exact hnot (h _ hname _ hallowed)
    | priority hrange => exact hrange h
    | blank hall => exact not_blank h.1 hall
    | device _ hbad =>
      obtain ⟨-, hdot, hdots, hcontrol⟩ := h
      rcases hbad with hbad | hbad | ⟨c, hc, hbad⟩
      · exact hdot hbad
      · exact hdots hbad
      · rw [hcontrol c hc] at hbad
        cases hbad
    | confirmation hname hmem hnot =>
      rw [h _ hname hmem] at hnot
      cases hnot
  · intro h
    cases r with
    | action =>
      by_contra hno
      exact h _ (.action (not_exists.mp hno))
    | allowed =>
      intro a hname actions hallowed
      by_contra hnot
      exact h _ (.allowed hname hallowed hnot)
    | priority =>
      by_contra hrange
      exact h _ (.priority hrange)
    | device =>
      have hsome : ∃ c ∈ s.device.toList, Text.isBlank c = false := by
        by_contra hno
        exact h _ (.blank (by simpa using hno))
      refine ⟨hsome, fun hdot ↦ h _ (.device hsome (Or.inl hdot)),
        fun hdots ↦ h _ (.device hsome (Or.inr (Or.inl hdots))), fun c hc ↦ ?_⟩
      by_contra hcontrol
      exact h _ (.device hsome (Or.inr (Or.inr ⟨c, hc, by simpa using hcontrol⟩)))
    | confirmation =>
      intro a hname hmem
      by_contra hnot
      exact h _ (.confirmation hname hmem (by simpa using hnot))

variable {α : Type} {r : Rule} {rules : List Rule} {x : Except Service.Error α}

theorem Broken.judges (h : r.Broken settings s e) :
    Judges (Broken settings s) (r :: rules) (.error e : Except Service.Error α) :=
  judges_error h fun _ h' ↦ h'.unique h

theorem judges_of_kept (h : r.Kept settings s) (hx : Judges (Broken settings s) rules x) :
    Judges (Broken settings s) (r :: rules) x :=
  hx.cons ((kept_iff r).mp h)

end Rule

namespace Submission

open Rule (Broken)

variable {settings : Settings} {s : Submission} {e : Service.Error}

theorem broken_of_checkPriority (h : checkPriority s.askedPriority = .error e) :
    Broken settings s .priority e := by
  unfold checkPriority at h
  split at h
  · cases h
  case isFalse hrange =>
    cases h
    refine .priority fun hkept ↦ hrange ?_
    simp only [Bool.and_eq_true, decide_eq_true_eq]
    exact hkept

theorem isDeviceName_iff {name : String} : isDeviceName name = true ↔
    (∃ c ∈ name.toList, Text.isBlank c = false) ∧ name ≠ "." ∧ name ≠ ".." ∧
      ∀ c ∈ name.toList, Text.isControl c = false := by
  simp [isDeviceName, and_assoc]

theorem broken_of_checkDeviceName (h : checkDeviceName s.device = .error e) :
    Broken settings s .device e := by
  unfold checkDeviceName at h
  split at h
  case isTrue hblank =>
    cases h
    exact .blank (List.all_eq_true.mp hblank)
  case isFalse hblank =>
    split at h
    · cases h
    case isFalse hname =>
      cases h
      have hsome : ∃ c ∈ s.device.toList, Text.isBlank c = false := by simpa using hblank
      refine .device hsome ?_
      by_contra hgood
      refine hname (isDeviceName_iff.mpr ⟨hsome, ?_⟩)
      simpa using hgood

theorem judges_accept : Judges (Broken settings s) Rule.all (s.accept settings) := by
  unfold accept Rule.all
  cases hn : Action.ofName? s.action with
  | none =>
    have hno : ∀ a : Action, a.name ≠ s.action := by
      intro a ha
      rw [Action.ofName?_eq_some_iff.mpr ha] at hn
      cases hn
    exact (Broken.action hno).judges
  | some action =>
    have hname : action.name = s.action := Action.ofName?_eq_some_iff.mp hn
    have hother {a : Action} (ha : a.name = s.action) : a = action :=
      Action.name_injective (ha.trans hname.symm)
    refine Rule.judges_of_kept (r := .action) ⟨action, hname⟩ ?_
    simp only
    cases hallows : settings.allows action with
    | false =>
      have hnot : ¬ settings.allows action = true := by simp [hallows]
      rw [Settings.allows_iff] at hnot
      push Not at hnot
      obtain ⟨actions, hallowed, hmem⟩ := hnot
      exact (Broken.allowed hname hallowed hmem).judges
    | true =>
      have hallowed : Rule.Kept settings s .allowed := by
        intro a ha
        rw [hother ha]
        exact Settings.allows_iff.mp hallows
      refine Rule.judges_of_kept hallowed ?_
      simp only [Bool.not_true, Bool.false_eq_true, if_false]
      cases hp : checkPriority s.askedPriority with
      | error e => exact (broken_of_checkPriority hp).judges
      | ok _ =>
        refine Rule.judges_of_kept (range_of_check hp) ?_
        cases hd : checkDeviceName s.device with
        | error e => exact (broken_of_checkDeviceName hd).judges
        | ok _ =>
          refine Rule.judges_of_kept (isDeviceName_iff.mp (isDeviceName_of_check hd)) ?_
          simp only
          split
          case isTrue hask =>
            have hask' : action ∈ settings.confirmed ∧ s.confirmed = false := by simpa using hask
            exact (Broken.confirmation hname hask'.1 hask'.2).judges
          case isFalse hask =>
            refine Rule.judges_of_kept ?_ (judges_ok _)
            intro a ha hmem
            rw [hother ha] at hmem
            simpa [hmem] using hask

end Submission

namespace System

variable {settings : Settings} {s t : System} {id : Identifier} {now : Instant}
  {submission : Submission} {record : Command.Record}

theorem judges_submit : Judges (Rule.Broken settings submission) Rule.all
    (s.submit settings id now submission) := by
  intro e
  rw [← Submission.judges_accept e]
  unfold submit
  cases submission.accept settings <;> simp

theorem record_of_submit (h : s.submit settings id now submission = .ok (t, record)) :
    ∃ action : Action, action.name = submission.action ∧
      record = ⟨id, submission.device, action, submission.parameters, submission.priority.getD 5,
        .pending, now, none, none, 0, none, none⟩ := by
  obtain ⟨order, ha, rfl, -⟩ := submit_eq_ok h
  have hpermits := Submission.permits_of_accept ha
  refine ⟨order.action, Action.ofName?_eq_some_iff.mp hpermits.action, ?_⟩
  rw [Command.Record.new, hpermits.device, hpermits.parameters, hpermits.priority]

end System

/-- In whatever state, a submission is taken on just if it keeps every rule. Otherwise the error is that
of the first rule in order that it breaks, and nothing changes. What is taken on is added to the commands
and to the lane of its device as a record that repeats the submission and tells of nothing else. -/
theorem submission_verdict (settings : Settings) (p : Retry.Policy) (s : System) (id : Identifier)
    (now : Instant) (submission : Submission) :
    ((∃ t record, s.submit settings id now submission = .ok (t, record)) ↔
        ∀ r : Rule, r.Kept settings submission) ∧
      (∀ e, s.submit settings id now submission = .error e ↔
        ∃ earlier r later, Rule.all = earlier ++ r :: later ∧
          (∀ r' ∈ earlier, r'.Kept settings submission) ∧ ¬ r.Kept settings submission ∧
          r.Broken settings submission e ∧ e.kind = r.kind) ∧
      (∀ e, s.submit settings id now submission = .error e →
        s.step settings p (.submit id now submission) = some (s, [])) ∧
      ∀ t record, s.submit settings id now submission = .ok (t, record) →
        s.step settings p (.submit id now submission) = some (t, []) ∧ s.Adds t record ∧
          ∃ action : Action, action.name = submission.action ∧
            record = ⟨id, submission.device, action, submission.parameters,
              submission.priority.getD 5, .pending, now, none, none, 0, none, none⟩ := by
  have hjudges : Judges (Rule.Broken settings submission) Rule.all
      (s.submit settings id now submission) := System.judges_submit
  refine ⟨?_, fun e ↦ ?_, fun e he ↦ ?_, fun t record h ↦ ⟨?_, ?_, System.record_of_submit h⟩⟩
  · have hok := hjudges.ok_iff Rule.kept_iff
    simpa only [Prod.exists, Rule.mem_all, forall_const] using hok
  · have hkind (r : Rule) : r.Broken settings submission e ↔
        r.Broken settings submission e ∧ e.kind = r.kind :=
      ⟨fun hr ↦ ⟨hr, Rule.kind_of_broken hr⟩, fun hr ↦ hr.1⟩
    simp only [← hkind, hjudges.error_iff Rule.kept_iff]
  · simp [System.step, he]
  · simp [System.step, h]
  · obtain ⟨order, -, rfl, rfl⟩ := System.submit_eq_ok h
    exact System.adds_accept rfl

end FleetControl.Dispatch
