import FleetControl.Proofs.Tool.Cancellation
import FleetControl.Proofs.Tool.Gating
import FleetControl.Tool.Handling

namespace FleetControl.Tool

open Dispatch (System Label Message Custody Unattended)

variable {setup : Setup} {p : Retry.Policy} {s t u : System} {turns : List Turn}
  {messages sent : List Message} {labels : List Label} {fresh : Identifier} {now : Instant}
  {line : String} {response : Response} {progress : Progress}

/-- The dispatcher went on as it would have without the call: its state and all that was sent come from
what happened meanwhile. When that was nothing, nothing changed; when it was on the lanes only, they
worked off what was there. -/
structure LeftToItself (settings : Dispatch.Settings) (p : Retry.Policy) (s : System)
    (labels : List Label) (sent : List Message) (u : System) : Prop where
  run : Dispatch.Run settings p s labels sent u
  still : labels = [] → u = s ∧ sent = []
  goesOn : Unattended labels → s.GoesOn u sent

def Call.Effect (setup : Setup) (p : Retry.Policy) (s : System) (fresh : Identifier)
    (labels : List Label) (sent : List Message) (u : System) (data : Option Json) : Call → Prop
  | .submit submission => labels = [] ∧ sent = [] ∧ ∃ record : Command.Record, s.Adds u record ∧
      record.id = fresh ∧ record.device = submission.device ∧ data = some record.toJson
  | .cancel ref => ∃ t rest, s.Cancels t ref.id ∧ sent = .cancel ref.id :: rest ∧
      LeftToItself setup.dispatcher p t labels rest u
  | _ => LeftToItself setup.dispatcher p s labels sent u

theorem leftToItself_of_run {settings : Dispatch.Settings} (hs : Custody s)
    (h : Dispatch.Run settings p s labels sent u) : LeftToItself settings p s labels sent u where
  run := h
  still hl := by
    cases h with
    | nil => exact ⟨rfl, rfl⟩
    | snoc => simp at hl
  goesOn := h.goesOn hs

@[simp] theorem Response.ofResult_ok {result : Except Service.Error Json} :
    (Response.ofResult result).ok = result.isOk := by
  cases result <;> rfl

/-- What a line does at once: it adds a command, it cancels one, it fails, or it is of another kind. -/
inductive Starts (setup : Setup) (s : System) (fresh : Identifier) (now : Instant) (line : String) :
    System → Progress → Prop
  | submitted {submission : Dispatch.Submission} {record : Command.Record} {t : System} :
    Call.ofLine line = .ok (.submit submission) →
      s.submit setup.dispatcher fresh now submission = .ok (t, record) →
        Starts setup s fresh now line t (.done record.toJson)
  | cancelled {ref : CommandRef} {e : Dispatch.Entry} {t : System} :
    Call.ofLine line = .ok (.cancel ref) → s.cancel ref.id now = .ok (t, e) →
      Starts setup s fresh now line t (.errand (.remoteCancel ref.id))
  | failed (e : Service.Error) : Starts setup s fresh now line s (.failed e)
  | other {call : Call} {progress : Progress} :
    Call.ofLine line = .ok call → (∀ submission, call ≠ .submit submission) →
      (∀ ref, call ≠ .cancel ref) → progress.messages = [] →
        Starts setup s fresh now line s progress

theorem starts_startLine (h : startLine setup s fresh now line = (t, progress)) :
    Starts setup s fresh now line t progress := by
  unfold startLine at h
  cases hcall : Call.ofLine line with
  | error e =>
    simp only [hcall, Prod.mk.injEq] at h
    obtain ⟨rfl, rfl⟩ := h
    exact .failed e
  | ok call =>
    simp only [hcall] at h
    by_cases hlabel : (Turn.call call fresh now).label? = none
    · have hstep : (Turn.call call fresh now).step setup .standard s =
          some (t, progress.messages) := by
        simp [Turn.step, h]
      obtain ⟨rfl, hsent⟩ := Turn.step_of_no_label hstep hlabel
      refine .other hcall ?_ ?_ hsent
      · rintro submission rfl
        cases hlabel
      · rintro ref rfl
        cases hlabel
    · cases call with
      | submit submission =>
        cases hs : s.submit setup.dispatcher fresh now submission with
        | error e =>
          simp only [Call.start, hs, Prod.mk.injEq] at h
          obtain ⟨rfl, rfl⟩ := h
          exact .failed e
        | ok result =>
          simp only [Call.start, hs, Prod.mk.injEq] at h
          obtain ⟨rfl, rfl⟩ := h
          exact .submitted hcall hs
      | cancel ref =>
        cases hc : s.cancel ref.id now with
        | error e =>
          simp only [Call.start, hc, Prod.mk.injEq] at h
          obtain ⟨rfl, rfl⟩ := h
          exact .failed e
        | ok result =>
          simp only [Call.start, hc, Prod.mk.injEq] at h
          obtain ⟨rfl, rfl⟩ := h
          exact .cancelled hcall hc
      | _ => exact absurd rfl hlabel

theorem Call.effect_other {call : Call} {data : Option Json}
    (hsubmit : ∀ submission, call ≠ .submit submission) (hcancel : ∀ ref, call ≠ .cancel ref)
    (h : LeftToItself setup.dispatcher p s labels sent u) :
    call.Effect setup p s fresh labels sent u data := by
  cases call with
  | submit submission => exact absurd rfl (hsubmit submission)
  | cancel ref => exact absurd rfl (hcancel ref)
  | _ => exact h

theorem Errand.finish_remoteCancel_isOk {settings : Dispatch.Settings} (hs : Custody s)
    {id : Identifier} {e : Dispatch.Entry} (hc : s.cancel id now = .ok (t, e))
    (hrun : Dispatch.Run settings p t labels sent u) (reply : Except Service.Error Json) :
    ((Errand.remoteCancel id).finish u reply).isOk = true := by
  rw [Errand.finish_remoteCancel (settled_of_cancel hs hc hrun).1 reply]
  rfl

/-- A rehearsal answers a line as any service does, and while it waits only the lanes go on; the calls
about commands that it notes are what the line and the lanes send. -/
theorem handled_answerLine (setup : Setup) (p : Retry.Policy) (stage : Rehearsal.Stage)
    (text : String) : ∃ labels sent, Unattended labels ∧
      Handled setup p stage.system (Rehearsal.identifierOf (stage.count + 1)) (.ofMillis stage.now)
        (Rehearsal.withIdentifiers text stage.count) labels sent
        (stage.answerLine ⟨setup, p⟩ text).1.system (stage.answerLine ⟨setup, p⟩ text).2 ∧
      (stage.answerLine ⟨setup, p⟩ text).1.forCommands =
        (sent.map Rehearsal.noteOf).reverse ++ stage.forCommands := by
  cases hstart : startLine setup stage.system (Rehearsal.identifierOf (stage.count + 1))
      (.ofMillis stage.now) (Rehearsal.withIdentifiers text stage.count) with
  | mk t progress =>
    cases progress with
    | answered result =>
      simp only [Rehearsal.Stage.answerLine, hstart]
      exact ⟨[], [], (fun _ hm ↦ by cases hm), .atOnce hstart, rfl⟩
    | errand e =>
      simp only [Rehearsal.Stage.answerLine, hstart]
      by_cases he : ∃ id, e = .remoteCancel id
      · obtain ⟨id, rfl⟩ := he
        obtain ⟨labels, rest, hrun, hl, hn⟩ := Rehearsal.Stage.leads_remoteCancel
          setup.dispatcher p { stage with system := t } id
        exact ⟨labels, .cancel id :: rest, hl, .errand (.ok .null) hstart hrun, hn⟩
      · obtain ⟨labels, rest, hrun, hl, hn⟩ := Rehearsal.Stage.leads_run setup.dispatcher p
          { stage with system := t } fun id hid ↦ he ⟨id, hid⟩
        refine ⟨labels, (Progress.errand e).messages ++ rest, hl, .errand _ hstart hrun, ?_⟩
        have hnone : (Progress.errand e).messages = [] := by
          cases e with
          | remoteCancel id => exact absurd ⟨id, rfl⟩ he
          | _ => rfl
        rw [hnone]
        exact hn

/-- Whatever line comes in whatever state: when the answer is a failure, the dispatcher was left to
itself and nothing was sent for the call. When it is a success, a submission has added one pending
command, a cancellation has cancelled one and sent its withdrawal, and every other call has left the
dispatcher to itself as well. This is how a rehearsal answers too. -/
theorem effects_of_calls (h : Run setup p .empty turns messages s) (hn : s.entryOf? fresh = none)
    (hh : Handled setup p s fresh now line labels sent u response) :
    (response.ok = false → LeftToItself setup.dispatcher p s labels sent u) ∧
    (response.ok = true → ∃ call, Call.ofLine line = .ok call ∧
      call.Effect setup p s fresh labels sent u response.data) ∧
    ∀ (stage : Rehearsal.Stage) (text : String), stage.system = s →
      ∃ labels sent, Unattended labels ∧
        Handled setup p s (Rehearsal.identifierOf (stage.count + 1)) (.ofMillis stage.now)
          (Rehearsal.withIdentifiers text stage.count) labels sent
          (stage.answerLine ⟨setup, p⟩ text).1.system (stage.answerLine ⟨setup, p⟩ text).2 ∧
        (stage.answerLine ⟨setup, p⟩ text).1.forCommands =
          (sent.map Rehearsal.noteOf).reverse ++ stage.forCommands := by
  have hc := h.dispatch.custody
  have hself (hm : Dispatch.Run setup.dispatcher p s labels sent u) :=
    leftToItself_of_run hc hm
  refine ⟨?_, ?_, ?_⟩
  · intro hfail
    cases hh with
    | atOnce hstart =>
      cases starts_startLine hstart with
      | submitted => cases hfail
      | failed e => exact hself .nil
      | other => exact hself .nil
    | @errand labels messages t u e reply hstart hrun =>
      cases starts_startLine hstart with
      | cancelled _ hcancel =>
        rw [Response.ofResult_ok, Errand.finish_remoteCancel_isOk hc hcancel hrun] at hfail
        cases hfail
      | other _ _ _ hnone =>
        rw [hnone] at hself ⊢
        exact hself hrun
  · intro hok
    cases hh with
    | atOnce hstart =>
      cases starts_startLine hstart with
      | submitted hcall hs =>
        obtain ⟨order, ha, hrecord, rfl⟩ := Dispatch.System.submit_eq_ok hs
        exact ⟨_, hcall, rfl, rfl, _, System.adds_accept (hrecord ▸ rfl), hrecord ▸ rfl,
          hrecord ▸ (Dispatch.Submission.permits_of_accept ha).device, rfl⟩
      | failed e => cases hok
      | other hcall hsubmit hcancel =>
        exact ⟨_, hcall, Call.effect_other hsubmit hcancel (hself .nil)⟩
    | @errand labels messages t u e reply hstart hrun =>
      cases starts_startLine hstart with
      | cancelled hcall hcancel =>
        have hmoves : s.Moves setup.dispatcher p t [.cancel _] := System.moves_of_cancel hcancel
        exact ⟨_, hcall, t, messages, System.cancels_of_cancel hc hcancel, rfl,
          leftToItself_of_run (hc.moves hmoves) hrun⟩
      | other hcall hsubmit hcancel hnone =>
        rw [hnone] at hself ⊢
        exact ⟨_, hcall, Call.effect_other hsubmit hcancel (hself hrun)⟩
  · rintro stage text rfl
    exact handled_answerLine setup p stage text

def takenUp : List Label := [.take "drone-7", .happen "drone-7" (.dispatch (.ofMillis 2))]

/-- The list of devices is asked for and not answered, while a lane takes up its command. -/
theorem effects_of_calls_unanswered : ∃ messages sent s u response,
    Run ⟨.standard, .standard⟩ .standard .empty ((Dispatch.threeCommands.take 2).map turnOf)
      messages s ∧
      Handled ⟨.standard, .standard⟩ .standard s ⟨3⟩ (.ofMillis 2)
        "\x7b\"tool\":\"list_devices\"\x7d" takenUp sent u response ∧
      response.ok = false ∧ LeftToItself .standard .standard s takenUp sent u ∧
      s.GoesOn u sent := by
  have hseen : (System.empty.replay .standard .standard (Dispatch.threeCommands.take 2)).any
      (fun before ↦ (before.1.entryOf? ⟨3⟩).isNone &&
        (before.1.replay .standard .standard takenUp).isSome) = true := by decide
  obtain ⟨⟨s, messages⟩, hs, hmore⟩ := Option.any_eq_true _ _ |>.mp hseen
  rw [Bool.and_eq_true, Option.isNone_iff_eq_none, Option.isSome_iff_exists] at hmore
  obtain ⟨hfresh, ⟨u, sent⟩, hu⟩ := hmore
  have hrun : Run ⟨.standard, .standard⟩ .standard .empty
      ((Dispatch.threeCommands.take 2).map turnOf) messages s :=
    Run.of_dispatch (Dispatch.run_of_replay hs)
  have hstart : startLine ⟨.standard, .standard⟩ s ⟨3⟩ (.ofMillis 2)
      "\x7b\"tool\":\"list_devices\"\x7d" = (s, .errand .devices) := rfl
  have hhandled := Handled.errand (.error (.unreachable 3 "refused")) hstart
    (Dispatch.run_of_replay hu)
  obtain ⟨hfailed, -, -⟩ := effects_of_calls hrun hfresh hhandled
  have hself := hfailed rfl
  exact ⟨messages, _, s, u, _, hrun, hhandled, rfl, hself, hself.goesOn (by decide)⟩

end FleetControl.Tool
