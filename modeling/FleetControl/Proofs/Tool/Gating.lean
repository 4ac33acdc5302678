import FleetControl.Proofs.Dispatch.Origin
import FleetControl.Tool.Run

namespace FleetControl.Tool

open Dispatch (System Label Message)

def Turn.label? : Turn → Option Label
  | .call (.submit submission) fresh now => some (.submit fresh now submission)
  | .call (.cancel ref) _ now => some (.cancel ref.id now)
  | .call _ _ _ => none
  | .take device => some (.take device)
  | .happen device h => some (.happen device h)

variable {setup : Setup} {p : Retry.Policy} {s t : System} {turn : Turn} {turns : List Turn}
  {messages sent : List Message}

@[simp] theorem Progress.messages_failed (e : Service.Error) : (failed e).messages = [] := rfl

@[simp] theorem Progress.messages_done (data : Json) : (done data).messages = [] := rfl

@[simp] theorem Progress.messages_remoteCancel (id : Identifier) :
    (errand (.remoteCancel id)).messages = [.cancel id] := rfl

theorem Turn.step_of_no_label (h : turn.step setup p s = some (t, sent)) (hl : turn.label? = none) :
    t = s ∧ sent = [] := by
  cases turn with
  | call c fresh now =>
    simp only [Turn.step, Option.some.injEq, Prod.mk.injEq] at h
    obtain ⟨rfl, rfl⟩ := h
    cases c with
    | submit submission => cases hl
    | cancel ref => cases hl
    | search asked =>
      simp only [Call.start]
      cases asked.query.prepare setup.query with
      | error e => exact ⟨rfl, rfl⟩
      | ok q => cases asked.dryRun <;> exact ⟨rfl, rfl⟩
    | status ref => cases hr : ref.remote <;> simp [Call.start, hr, Progress.messages]
    | device ref =>
      simp only [Call.start]
      cases Dispatch.checkDeviceName ref.device <;> exact ⟨rfl, rfl⟩
    | sample sampling =>
      simp only [Call.start]
      cases Dispatch.checkDeviceName sampling.device <;> exact ⟨rfl, rfl⟩
    | _ => exact ⟨rfl, rfl⟩
  | _ => cases hl

theorem Turn.step_of_label {label : Label} (hl : turn.label? = some label) :
    turn.step setup p s = s.step setup.dispatcher p label := by
  cases turn with
  | call c fresh now =>
    cases c with
    | submit submission =>
      obtain rfl := Option.some.inj hl
      cases hs : s.submit setup.dispatcher fresh now submission <;>
        simp [Turn.step, Call.start, hs, System.step]
    | cancel ref =>
      obtain rfl := Option.some.inj hl
      cases hs : s.cancel ref.id now <;> simp [Turn.step, Call.start, hs, System.step]
    | _ => cases hl
  | take device => exact Option.some.inj hl ▸ rfl
  | happen device happening => exact Option.some.inj hl ▸ rfl

theorem Turn.admitted_of_label {label : Label} (hl : turn.label? = some label) :
    turn.Admitted s ↔ s.admits label := by
  cases turn with
  | call c fresh now =>
    cases c with
    | submit submission => exact Option.some.inj hl ▸ Iff.rfl
    | cancel ref => exact Option.some.inj hl ▸ Iff.rfl
    | _ => cases hl
  | take device => exact Option.some.inj hl ▸ Iff.rfl
  | happen device happening => exact Option.some.inj hl ▸ Iff.rfl

theorem Run.dispatch (h : Run setup p s turns messages t) :
    Dispatch.Run setup.dispatcher p s (turns.filterMap Turn.label?) messages t := by
  induction h with
  | nil => exact .nil
  | @snoc turns messages sent t u turn _ ha hs ih =>
    rw [List.filterMap_append]
    cases hl : turn.label? with
    | none =>
      obtain ⟨rfl, rfl⟩ := Turn.step_of_no_label hs hl
      simpa [hl] using ih
    | some label =>
      have hone : [turn].filterMap Turn.label? = [label] := by simp [hl]
      rw [hone]
      exact ih.snoc ((Turn.admitted_of_label hl).mp ha) ((Turn.step_of_label hl).symm.trans hs)

def turnOf : Label → Turn
  | .submit id now submission => .call (.submit submission) id now
  | .cancel id now => .call (.cancel ⟨id, false⟩) .nil now
  | .take device => .take device
  | .happen device h => .happen device h

@[simp] theorem turnOf_label? (label : Label) : (turnOf label).label? = some label := by
  cases label <;> rfl

theorem Run.of_dispatch {labels : List Label}
    (h : Dispatch.Run setup.dispatcher p s labels messages t) :
    Run setup p s (labels.map turnOf) messages t := by
  induction h with
  | nil => exact .nil
  | snoc _ ha hs ih =>
    rw [List.map_append]
    exact ih.snoc ((Turn.admitted_of_label (turnOf_label? _)).mpr ha)
      ((Turn.step_of_label (turnOf_label? _)).trans hs)

theorem Turn.takesOn_eq (id : Identifier) (turn : Turn) :
    turn.takesOn setup id = (turn.label?.map (Label.takesOn setup.dispatcher id)).getD false := by
  cases turn with
  | call c fresh now => cases c <;> rfl
  | _ => rfl

theorem Turn.eq_of_label {id : Identifier} {now : Instant} {submission : Dispatch.Submission}
    (h : turn.label? = some (.submit id now submission)) :
    turn = .call (.submit submission) id now := by
  cases turn with
  | call c fresh now' =>
    cases c with
    | submit submission' =>
      simp only [Turn.label?, Option.some.injEq, Label.submit.injEq] at h
      obtain ⟨rfl, rfl, rfl⟩ := h
      rfl
    | _ => simp [Turn.label?] at h
  | _ => simp [Turn.label?] at h

/-- Every request that is ever sent to a device repeats a submission of the run, the only one taken on
under its identifier, and all the rules permit that submission to stand for it. -/
theorem requests_permitted (h : Run setup p .empty turns messages s) (r : Command.Request)
    (hr : r ∈ Dispatch.requests messages) :
    turns.countP (Turn.takesOn setup r.command) = 1 ∧
      ∃ now submission order, .call (.submit submission) r.command now ∈ turns ∧
        submission.accept setup.dispatcher = .ok order ∧
        submission.Permits setup.dispatcher order ∧ r = order.request r.command := by
  obtain ⟨hcount, now, submission, order, hm, ha, hreq⟩ := h.dispatch.request_submitted hr
  constructor
  · rw [List.countP_filterMap] at hcount
    rw [← hcount]
    exact List.countP_congr fun turn _ ↦ by rw [Turn.takesOn_eq]
  · obtain ⟨turn, hturn, hlabel⟩ := List.mem_filterMap.mp hm
    obtain rfl := Turn.eq_of_label hlabel
    exact ⟨now, submission, order, hturn, ha, Dispatch.Submission.permits_of_accept ha, hreq⟩

def guarded : Setup := ⟨⟨[.takeoff], some [.takeoff, .land], 100⟩, .standard⟩

/-- A takeoff that is asked for twice, the second time with a confirmation, and then delivered. -/
def confirmedTakeoff : List Label :=
  let asked (confirmed : Bool) : Dispatch.Submission := ⟨"drone-7", "takeoff", [], some 7, confirmed⟩
  [.submit ⟨1⟩ (.ofMillis 0) (asked false), .submit ⟨1⟩ (.ofMillis 1) (asked true),
    .take "drone-7", .happen "drone-7" (.dispatch (.ofMillis 2)), .happen "drone-7" .begin]

theorem requests_permitted_takeoff : ∃ messages s r,
    Run guarded .standard .empty (confirmedTakeoff.map turnOf) messages s ∧
      r ∈ Dispatch.requests messages ∧ r.action = .takeoff ∧
      ∃ now submission, .call (.submit submission) r.command now ∈ confirmedTakeoff.map turnOf ∧
        submission.confirmed = true := by
  obtain ⟨⟨s, messages⟩, hs⟩ : ∃ result,
      System.empty.replay guarded.dispatcher .standard confirmedTakeoff = some result :=
    Option.isSome_iff_exists.mp (by decide)
  have hsent : (System.empty.replay guarded.dispatcher .standard confirmedTakeoff).map
      (fun result ↦ (Dispatch.requests result.2).map fun r ↦ r.action) = some [.takeoff] := by decide
  rw [hs, Option.map_some, Option.some.injEq] at hsent
  obtain ⟨r, hr, hact⟩ : ∃ r ∈ Dispatch.requests messages, r.action = .takeoff :=
    List.mem_map.mp (hsent ▸ List.mem_singleton_self _)
  have hrun : Run guarded .standard .empty (confirmedTakeoff.map turnOf) messages s :=
    Run.of_dispatch (Dispatch.run_of_replay hs)
  obtain ⟨-, now, submission, order, hm, -, hp, hreq⟩ := requests_permitted hrun r hr
  refine ⟨messages, s, r, hrun, hr, hact, now, submission, hm, hp.confirmed ?_⟩
  have ho : order.action = r.action := (congrArg Command.Request.action hreq).symm
  simp [ho, hact, guarded]

end FleetControl.Tool
