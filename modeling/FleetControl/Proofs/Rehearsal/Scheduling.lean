import FleetControl.Proofs.Dispatch.Changes
import FleetControl.Rehearsal.Session

namespace FleetControl.Rehearsal

open Dispatch (System Label Message Run Unattended)

variable {settings : Dispatch.Settings} {p : Retry.Policy}

def noteOf : Message → String × List (String × Json)
  | .submit r => ("submit", [("body", r.toJson)])
  | .cancel id => ("cancel", [("command", .text id.render)])

def Noted.forCommand? (n : Noted) : Option (String × List (String × Json)) :=
  if n.call = "submit" ∨ n.call = "cancel" then some (n.call, n.details) else none

namespace Stage

def forCommands (s : Stage) : List (String × List (String × Json)) :=
  s.noted.filterMap Noted.forCommand?

/-- Time passes: the lanes go on, and nothing is noted of commands but what they send. -/
structure Elapses (settings : Dispatch.Settings) (p : Retry.Policy) (s s' : Stage)
    (labels : List Label) (messages : List Message) : Prop where
  run : Run settings p s.system labels messages s'.system
  unattended : Unattended labels
  noted : s'.forCommands = (messages.map noteOf).reverse ++ s.forCommands

def Leads (settings : Dispatch.Settings) (p : Retry.Policy) (s s' : Stage) : Prop :=
  ∃ labels messages, s.Elapses settings p s' labels messages

variable {s s' s'' : Stage} {device : String}

theorem leads_of_same (hs : s'.system = s.system) (hn : s'.forCommands = s.forCommands) :
    s.Leads settings p s' :=
  ⟨[], [], hs ▸ .nil, (fun _ hm ↦ by cases hm), hn⟩

theorem leads_refl (s : Stage) : s.Leads settings p s := leads_of_same rfl rfl

theorem Leads.trans (h : s.Leads settings p s') (h' : s'.Leads settings p s'') :
    s.Leads settings p s'' := by
  obtain ⟨labels, messages, hrun, hl, hn⟩ := h
  obtain ⟨labels', messages', hrun', hl', hn'⟩ := h'
  refine ⟨labels ++ labels', messages ++ messages', hrun.trans hrun', ?_, ?_⟩
  · exact fun label hm ↦ (List.mem_append.mp hm).elim (hl label) (hl' label)
  · rw [hn', hn, List.map_append, List.reverse_append, List.append_assoc]

theorem leads_of_move {m : Move} (h : s.move? p device m = some s') : s.Leads settings p s' := by
  cases m with
  | take =>
    obtain ⟨t, ht, rfl⟩ := Option.map_eq_some_iff.mp h
    have hstep : s.system.step settings p (.take device) = some (t, []) := by
      simp [System.step, ht]
    exact ⟨[.take device], [], Run.nil.snoc trivial hstep, by simp [Unattended, Label.lane?], rfl⟩
  | happen happening =>
    obtain ⟨⟨t, sent⟩, ht, rfl⟩ := Option.map_eq_some_iff.mp h
    have hstep : s.system.step settings p (.happen device happening) =
        some (t, sent.toList.map .submit) := by simp [System.step, ht]
    refine ⟨[.happen device happening], sent.toList.map .submit, ?_,
      by simp [Unattended, Label.lane?], ?_⟩
    · cases sent <;> exact Run.nil.snoc trivial hstep
    · cases sent <;> rfl

theorem leads_runWithin (isDone : Stage → Bool) (until? : Option Span) (fuel : ℕ) (s : Stage) :
    s.Leads settings p (s.runWithin p isDone until? fuel) := by
  induction fuel generalizing s with
  | zero => exact leads_refl _
  | succ fuel ih =>
    unfold runWithin
    split
    · exact leads_refl _
    · split
      · exact leads_refl _
      · split
        · exact leads_refl _
        · split
          · exact leads_refl _
          · rename_i time _ _ _ _ _ s' hmove
            have hnow : s.Leads settings p { s with now := time } := leads_of_same rfl rfl
            exact hnow.trans ((leads_of_move hmove).trans (ih s'))

theorem leads_runTo (time : Span) (s : Stage) : s.Leads settings p (s.runTo p time) :=
  (leads_runWithin _ _ _ s).trans (leads_of_same rfl rfl)

theorem Leads.runTo (h : s.Leads settings p s') (time : Span) :
    s.Leads settings p (s'.runTo p time) :=
  h.trans (leads_runTo time s')

theorem Leads.replies (h : s.Leads settings p s') (replies : Replies) :
    s.Leads settings p { s' with replies := replies } :=
  h.trans (leads_of_same rfl rfl)

theorem forCommands_note {time : Span} {call : String} {details : List (String × Json)}
    (h : call ≠ "submit" ∧ call ≠ "cancel") :
    (s.note time device call details).forCommands = s.forCommands := by
  simp [note, forCommands, Noted.forCommand?, h.1, h.2]

theorem Leads.note (hs : s.Leads settings p s') {time : Span} {call : String}
    {details : List (String × Json)} (h : call ≠ "submit" ∧ call ≠ "cancel") :
    s.Leads settings p (s'.note time device call details) :=
  hs.trans (leads_of_same rfl (forCommands_note h))

theorem forCommands_notes {call : String} (h : call ≠ "submit" ∧ call ≠ "cancel")
    (device : String) (details : List (String × Json)) (begun : List Retry.Begun) (s : Stage) :
    (begun.foldl (fun s b ↦ s.note b.time device call details) s).forCommands = s.forCommands ∧
      (begun.foldl (fun s b ↦ s.note b.time device call details) s).system = s.system := by
  induction begun generalizing s with
  | nil => exact ⟨rfl, rfl⟩
  | cons b begun ih =>
    obtain ⟨hn, hs⟩ := ih (s.note b.time device call details)
    exact ⟨hn.trans (forCommands_note h), hs⟩

theorem leads_request {α : Type} {replies : List CallReply} {otherwise : CallReply}
    {read : Json → Except Device.CallError α} {call : String} {details : List (String × Json)}
    (h : call ≠ "submit" ∧ call ≠ "cancel") :
    s.Leads settings p (s.request p replies otherwise read device call details).1 := by
  have hnotes := forCommands_notes h device details
    (p.run (fun n ↦ (replies[n - 1]?.getD otherwise).toAttempt read) s.now none).begun s
  exact (leads_of_same hnotes.2 hnotes.1).trans (leads_runTo _ _)

theorem leads_takeFrom (count : ℕ) (patience : Option Span) :
    s.Leads settings p (s.takeFrom p device count patience).1 := by
  have hrequest : s.Leads settings p (s.request p (repliesFor device s.replies.telemetry)
      (s.replies.last (.telemetry device) (.object [])) (fun v ↦ .ok (Stream.ofJson v)) device
      "telemetry" [("device", .text device)]).1 := leads_request (by decide)
  unfold takeFrom
  generalize s.request p (repliesFor device s.replies.telemetry)
      (s.replies.last (.telemetry device) (.object [])) (fun v ↦ .ok (Stream.ofJson v)) device
      "telemetry" [("device", .text device)] = requested at hrequest ⊢
  obtain ⟨t, result, used⟩ := requested
  cases result with
  | error e => exact hrequest.replies _
  | ok stream => exact ((hrequest.replies _).runTo _).note (by decide)

theorem leads_remoteCancel (settings : Dispatch.Settings) (p : Retry.Policy) (s : Stage)
    (id : Identifier) :
    ∃ labels messages, Run settings p s.system labels messages (s.remoteCancel p id).system ∧
      Unattended labels ∧ (s.remoteCancel p id).forCommands =
        ((Message.cancel id :: messages).map noteOf).reverse ++ s.forCommands := by
  obtain ⟨labels, messages, hrun, hl, hn⟩ : Leads settings p _ (s.remoteCancel p id) :=
    leads_runTo _ _
  refine ⟨labels, messages, hrun, hl, hn.trans ?_⟩
  rw [List.map_cons, List.reverse_cons, List.append_assoc]
  rfl

theorem leads_run (settings : Dispatch.Settings) (p : Retry.Policy) (s : Stage) {e : Tool.Errand}
    (he : ∀ id, e ≠ .remoteCancel id) :
    s.Leads settings p (s.run p e).1 := by
  cases e with
  | search q => exact (leads_refl s).note (by decide)
  | tableCounts => exact (leads_refl s).note (by decide)
  | devices => exact (leads_request (by decide)).replies _
  | device id => exact (leads_request (by decide)).replies _
  | remoteStatus id => exact (leads_request (by decide)).replies _
  | remoteCancel id => exact absurd rfl (he id)
  | sample sampling => exact leads_takeFrom _ _

end Stage

end FleetControl.Rehearsal
