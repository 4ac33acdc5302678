import FleetControl.Proofs.Dispatch.Withdrawal
import FleetControl.Proofs.Rehearsal.Scheduling

namespace FleetControl.Tool

open Dispatch (System Label Message Entry withdrawals attempts)

variable {settings : Dispatch.Settings} {p : Retry.Policy} {s t u : System} {labels : List Label}
  {messages : List Message} {id : Identifier} {now : Instant} {e : Entry}

theorem Call.start_cancel_error {error : Service.Error} (h : s.cancel id now = .error error)
    (setup : Setup) (fresh : Identifier) (remote : Bool) :
    (Call.cancel ⟨id, remote⟩).start setup s fresh now = (s, .failed error) := by
  simp [Call.start, h]

theorem Call.start_cancel_ok (h : s.cancel id now = .ok (t, e)) (setup : Setup)
    (fresh : Identifier) (remote : Bool) :
    (Call.cancel ⟨id, remote⟩).start setup s fresh now = (t, .errand (.remoteCancel id)) := by
  simp [Call.start, h]

theorem Errand.finish_remoteCancel (he : s.entryOf? id = some e)
    (reply : Except Service.Error Json) :
    (Errand.remoteCancel id).finish s reply = .ok e.record.toJson := by
  simp [Errand.finish, System.status, he, Except.map]

theorem settled_of_cancel (hs : Dispatch.Custody s) (h : s.cancel id now = .ok (t, e))
    {more : List Label} {sent : List Message} (hrun : Dispatch.Run settings p t more sent u) :
    u.entryOf? id = some e ∧ attempts id sent = 0 := by
  obtain ⟨he, hc⟩ := System.cancel_ok h
  have hm : s.Moves settings p t [.cancel id] := System.moves_of_cancel h
  refine ⟨hrun.entryOf?_of_isTerminal he (by simp [hc, Command.Status.isTerminal]), ?_⟩
  exact hrun.cancelled_untried (hs.moves hm) (System.isCancelled_of_entryOf? he hc)

theorem eq_submits {sent : List Message} (h : sent.filterMap Message.withdrawal? = []) :
    sent = (Dispatch.requests sent).map .submit := by
  induction sent with
  | nil => rfl
  | cons m sent ih =>
    cases m with
    | submit r => exact congrArg (.submit r :: ·) (ih h)
    | cancel id => cases h

theorem requests_submits (requests : List Command.Request) :
    Dispatch.requests (requests.map .submit) = requests := by
  rw [Dispatch.requests, List.filterMap_map]
  exact List.filterMap_some

theorem noted_remoteCancel (settings : Dispatch.Settings) (p : Retry.Policy)
    (hs : Dispatch.Custody s) {stage : Rehearsal.Stage}
    (hstage : stage.system = s) (id : Identifier) : ∃ requests : List Command.Request,
      (∃ labels, Dispatch.Run settings p s labels (requests.map .submit)
        (stage.remoteCancel p id).system) ∧
      (stage.remoteCancel p id).forCommands =
        (requests.map fun r ↦ Rehearsal.noteOf (.submit r)).reverse ++
          Rehearsal.noteOf (.cancel id) :: stage.forCommands := by
  obtain ⟨labels, messages, hrun, hl, hn⟩ := stage.leads_remoteCancel settings p id
  rw [hstage] at hrun
  have hsent := eq_submits (hrun.goesOn hs hl).withdrawals
  refine ⟨Dispatch.requests messages, ⟨labels, hsent ▸ hrun⟩, ?_⟩
  rw [hn, List.map_cons, List.reverse_cons, List.append_assoc, List.singleton_append]
  conv_lhs => rw [hsent, List.map_map]
  rfl

/-- A cancellation succeeds when the command is tracked and not yet over, and otherwise says why it
does not, and then nothing is changed or sent. After one that succeeds, the answer is the record as it
was cancelled, whatever the device service replies to the withdrawal and whatever happens meanwhile,
and the command is not sent again; a rehearsal notes one withdrawal for it. Over a whole run a command is withdrawn once for each cancellation
that succeeds, and at most once. -/
theorem cancellation (h : Dispatch.Run settings p .empty labels messages s) (id : Identifier)
    (now : Instant) :
    ((s.cancel id now).isOk = true ↔ ∃ e, s.entryOf? id = some e ∧
      (e.record.status = .pending ∨ e.record.status = .executing)) ∧
    (∀ error, s.cancel id now = .error error →
      ((s.entryOf? id = none ∧ error = .commandNotFound id) ∨
        ∃ e, s.entryOf? id = some e ∧ e.record.status.isTerminal = true ∧
          error = .transition ⟨e.record.status, "cancel"⟩) ∧
      s.step settings p (.cancel id now) = some (s, []) ∧
      ∀ setup fresh remote,
        (Call.cancel ⟨id, remote⟩).start setup s fresh now = (s, .failed error)) ∧
    (∀ t e, s.cancel id now = .ok (t, e) → e.record.status = .cancelled ∧
      s.step settings p (.cancel id now) = some (t, [.cancel id]) ∧
      (∀ setup fresh remote,
        (Call.cancel ⟨id, remote⟩).start setup s fresh now = (t, .errand (.remoteCancel id))) ∧
      (∀ more sent u, Dispatch.Run settings p t more sent u → attempts id sent = 0 ∧
        ∀ reply, (Errand.remoteCancel id).finish u reply = .ok e.record.toJson) ∧
      ∀ (stage stage' : Rehearsal.Stage) reply, stage.system = t →
        stage.run p (.remoteCancel id) = (stage', reply) →
          (Errand.remoteCancel id).finish stage'.system reply = .ok e.record.toJson ∧
          ∃ requests : List Command.Request, (∀ r ∈ requests, r.command ≠ id) ∧
            stage'.forCommands =
              (requests.map fun r ↦ Rehearsal.noteOf (.submit r)).reverse ++
                Rehearsal.noteOf (.cancel id) :: stage.forCommands) ∧
    withdrawals id messages = System.empty.cancellations settings p id labels ∧
    withdrawals id messages ≤ 1 := by
  refine ⟨System.cancel_isOk_iff, ?_, ?_, h.withdrawals_eq id, h.withdrawals_le_one id⟩
  · intro error herror
    exact ⟨System.cancel_eq_error herror, System.step_cancel_error herror,
      Call.start_cancel_error herror⟩
  · intro t e hok
    have hafter (more : List Label) (sent : List Message) (u : System)
        (hrun : Dispatch.Run settings p t more sent u) : attempts id sent = 0 ∧
          ∀ reply, (Errand.remoteCancel id).finish u reply = .ok e.record.toJson := by
      obtain ⟨he, hnone⟩ := settled_of_cancel h.custody hok hrun
      exact ⟨hnone, Errand.finish_remoteCancel he⟩
    refine ⟨(System.cancel_ok hok).2, System.step_cancel_ok hok, Call.start_cancel_ok hok,
      hafter, ?_⟩
    rintro stage stage' reply rfl hstage
    obtain ⟨rfl, -⟩ := Prod.mk.inj hstage
    have hm : s.Moves settings p stage.system [.cancel id] := System.moves_of_cancel hok
    obtain ⟨requests, ⟨more, hrun⟩, hnoted⟩ :=
      noted_remoteCancel settings p (h.custody.moves hm) rfl id
    obtain ⟨hnone, hanswer⟩ := hafter more _ _ hrun
    rw [attempts, requests_submits] at hnone
    exact ⟨hanswer reply, requests,
      fun r hr hid ↦ List.count_eq_zero.mp hnone (List.mem_map.mpr ⟨r, hr, hid⟩), hnoted⟩

theorem cancellation_during_attempt : ∃ messages s t e,
    Dispatch.Run .standard .standard .empty (Dispatch.threeCommands.take 6) messages s ∧
      attempts ⟨1⟩ messages = 1 ∧ s.cancel ⟨1⟩ (.ofMillis 4) = .ok (t, e) ∧
      e.record.status = .cancelled ∧
      ∀ more sent u, Dispatch.Run .standard .standard t more sent u → attempts ⟨1⟩ sent = 0 := by
  obtain ⟨⟨s, messages⟩, hs⟩ : ∃ result, System.empty.replay .standard .standard
      (Dispatch.threeCommands.take 6) = some result := Option.isSome_iff_exists.mp (by decide)
  have hseen : (System.empty.replay .standard .standard (Dispatch.threeCommands.take 6)).map
      (fun result ↦ ((result.1.entryOf? ⟨1⟩).map fun e ↦ e.record.status, attempts ⟨1⟩ result.2)) =
        some (some .executing, 1) := by decide
  rw [hs, Option.map_some, Option.some.injEq, Prod.mk.injEq] at hseen
  obtain ⟨e₀, he₀, hx⟩ := Option.map_eq_some_iff.mp hseen.1
  have hrun := Dispatch.run_of_replay hs
  obtain ⟨hok, -, hgranted, -, -⟩ := cancellation hrun ⟨1⟩ (.ofMillis 4)
  have hsome := hok.mpr ⟨e₀, he₀, Or.inr hx⟩
  cases hc : s.cancel ⟨1⟩ (.ofMillis 4) with
  | error error => simp [hc, Except.isOk, Except.toBool] at hsome
  | ok result =>
    obtain ⟨t, e⟩ := result
    obtain ⟨hcancelled, -, -, hafter, -⟩ := hgranted t e hc
    exact ⟨messages, s, t, e, hrun, hseen.2, hc, hcancelled,
      fun more sent u hmore ↦ (hafter more sent u hmore).1⟩

end FleetControl.Tool
