import FleetControl.Proofs.Dispatch.Order

namespace FleetControl.Dispatch

open Command (Status Event)

variable {settings : Settings} {p : Retry.Policy} {s t : System} {labels : List Label}
  {messages sent : List Message} {id : Identifier} {e e' : Entry} {now : Instant}

theorem next?_of_isTerminal {status : Status} (h : status.isTerminal = true) (event : Event) :
    status.next? event = none := by
  cases status <;> simp_all [Status.isTerminal, Status.next?]

theorem next?_cancel_isSome {status : Status} :
    (status.next? .cancel).isSome = true ↔ status = .pending ∨ status = .executing := by
  cases status <;> simp [Status.next?]

theorem Entry.apply_of_next? {event : Event} {status : Status} (now : Instant)
    (h : e.record.status.next? event = some status) : ∃ e', e.apply now event = .ok e' := by
  simp [Entry.apply, Command.Record.apply, h, Except.map]

theorem Entry.apply_of_not_next? {event : Event} (h : e.record.status.next? event = none) :
    e.apply now event = .error ⟨e.record.status, event.name⟩ := by
  simp [Entry.apply, Command.Record.apply, h, Except.map]

theorem Entry.not_apply_of_isTerminal {event : Event} (h : e.record.status.isTerminal = true) :
    e.apply now event ≠ .ok e' := by
  rw [Entry.apply_of_not_next? (next?_of_isTerminal h event)]
  simp

theorem Hand.Moves.entry_of_isTerminal {hand : Hand} {step : Step} (h : hand.Moves p e step)
    (ht : e.record.status.isTerminal = true) : step.entry = e := by
  cases h with
  | dispatched ha => exact absurd ha (Entry.not_apply_of_isTerminal ht)
  | noted ha => exact absurd ha (Entry.not_apply_of_isTerminal ht)
  | begun =>
    have hne : e.record.status ≠ .executing := by
      intro hx
      simp [hx, Status.isTerminal] at ht
    exact if_neg hne
  | _ => rfl

theorem System.Moves.entryOf?_of_isTerminal (h : s.Moves settings p t sent)
    (he : s.entryOf? id = some e) (ht : e.record.status.isTerminal = true) :
    t.entryOf? id = some e := by
  cases h with
  | submitted ha hr hn =>
    rw [System.entryOf?_accept hn, if_neg, he]
    rintro rfl
    simp [hn] at he
  | unchanged => exact he
  | @cancelled id' e₀ e' now he₀ ha =>
    have hid : e'.interrupt.record.id = id' :=
      (Entry.apply_ok ha).2.1.trans (System.id_of_entryOf? he₀)
    rw [System.entryOf?_setEntry_of he₀ hid, if_neg, he]
    rintro rfl
    obtain rfl : e₀ = e := Option.some.inj (he₀.symm.trans he)
    exact Entry.not_apply_of_isTerminal ht ha
  | taken => exact he
  | @happened l id' e₀ step hl hc he₀ hm =>
    rw [System.entryOf?_advance he₀ hm]
    split
    · rename_i hi
      subst hi
      obtain rfl : e₀ = e := Option.some.inj (he₀.symm.trans he)
      rw [hm.entry_of_isTerminal ht]
    · exact he

theorem Run.entryOf?_of_isTerminal (h : Run settings p s labels messages t)
    (he : s.entryOf? id = some e) (ht : e.record.status.isTerminal = true) :
    t.entryOf? id = some e :=
  h.keeps (P := fun u _ ↦ u.entryOf? id = some e) he fun _ _ _ _ hu hm ↦
    hm.entryOf?_of_isTerminal hu ht

namespace System

theorem cancel_isOk_iff : (s.cancel id now).isOk = true ↔
    ∃ e, s.entryOf? id = some e ∧ (e.record.status = .pending ∨ e.record.status = .executing) := by
  unfold cancel
  cases he : s.entryOf? id with
  | none => simp [Except.isOk, Except.toBool]
  | some e =>
    simp only [Option.some.injEq, exists_eq_left', ← next?_cancel_isSome]
    cases hn : e.record.status.next? .cancel with
    | none => simp [Entry.apply_of_not_next? hn, Except.isOk, Except.toBool]
    | some status =>
      obtain ⟨e', ha⟩ := Entry.apply_of_next? now hn
      simp [ha, Except.isOk, Except.toBool]

theorem cancel_eq_error {error : Service.Error} (h : s.cancel id now = .error error) :
    (s.entryOf? id = none ∧ error = .commandNotFound id) ∨
      ∃ e, s.entryOf? id = some e ∧ e.record.status.isTerminal = true ∧
        error = .transition ⟨e.record.status, "cancel"⟩ := by
  unfold cancel at h
  cases he : s.entryOf? id with
  | none =>
    simp only [he, Except.error.injEq] at h
    exact Or.inl ⟨rfl, h.symm⟩
  | some e =>
    right
    cases hn : e.record.status.next? .cancel with
    | none =>
      simp only [he, Entry.apply_of_not_next? hn, Except.error.injEq] at h
      refine ⟨e, rfl, ?_, h.symm⟩
      cases hs : e.record.status <;> simp_all [Status.next?, Status.isTerminal]
    | some status =>
      obtain ⟨e', ha⟩ := Entry.apply_of_next? now hn
      simp [he, ha] at h

theorem cancel_ok {t : System} (h : s.cancel id now = .ok (t, e)) :
    t.entryOf? id = some e ∧ e.record.status = .cancelled := by
  obtain ⟨e₀, e', he, ha, rfl, rfl⟩ := cancel_eq_ok h
  obtain ⟨hn, hid, -⟩ := Entry.apply_ok ha
  have hid' : e'.interrupt.record.id = id := hid.trans (id_of_entryOf? he)
  exact ⟨(entryOf?_setEntry_of he hid' id).trans (if_pos rfl), status_of_cancel hn⟩

theorem step_cancel_ok {t : System} (h : s.cancel id now = .ok (t, e)) :
    s.step settings p (.cancel id now) = some (t, [.cancel id]) := by
  simp [step, h]

theorem step_cancel_error {error : Service.Error} (h : s.cancel id now = .error error) :
    s.step settings p (.cancel id now) = some (s, []) := by
  simp [step, h]

end System

theorem withdrawals_append (id : Identifier) (messages sent : List Message) :
    withdrawals id (messages ++ sent) = withdrawals id messages + withdrawals id sent := by
  simp [withdrawals]

theorem withdrawals_submit (request : Option Command.Request) :
    withdrawals id (request.toList.map .submit) = 0 := by
  cases request <;> rfl

theorem withdrawals_cancel (id id' : Identifier) :
    withdrawals id [.cancel id'] = if id' = id then 1 else 0 := by
  simp [withdrawals, Message.withdrawal?, List.count_singleton]

theorem System.withdrawals_of_step {label : Label} (h : s.step settings p label = some (t, sent)) :
    withdrawals id sent = (s.cancels id label).toNat := by
  cases does_of_step h with
  | rejected => rfl
  | submitted => rfl
  | @refused id' now error hs =>
    have hnone : s.cancels id (.cancel id' now) = false := by
      by_cases hi : id' = id
      · subst hi
        simp [cancels, hs, Except.isOk, Except.toBool]
      · simp [cancels, hi]
    rw [hnone]
    rfl
  | @cancelled id' e e' now he ha =>
    have hs := cancel_of_apply he ha
    rw [withdrawals_cancel]
    split
    · rename_i hi
      subst hi
      simp [cancels, hs, Except.isOk, Except.toBool]
    · rename_i hi
      have hother : s.cancels id (.cancel id' now) = false := by simp [cancels, hi]
      rw [hother]
      rfl
  | taken => rfl
  | @happened l _ _ _ st => exact withdrawals_submit st.sent

theorem Run.cancellations_append (h : Run settings p s labels messages t) (id : Identifier)
    (more : List Label) : s.cancellations settings p id (labels ++ more) =
      s.cancellations settings p id labels + t.cancellations settings p id more := by
  induction h generalizing more with
  | nil => simp [System.cancellations]
  | @snoc labels messages sent t u label _ _ hs ih =>
    have hmore (rest : List Label) : t.cancellations settings p id (label :: rest) =
        (t.cancels id label).toNat + u.cancellations settings p id rest := by
      simp [System.cancellations, hs]
    rw [List.append_assoc, List.singleton_append, ih, ih, hmore, hmore]
    simp only [System.cancellations]
    omega

/-- One withdrawal is sent for each cancellation that succeeds. -/
theorem Run.withdrawals_eq (h : Run settings p s labels messages t) (id : Identifier) :
    withdrawals id messages = s.cancellations settings p id labels := by
  induction h with
  | nil => rfl
  | @snoc labels messages sent t u label hrun _ hs ih =>
    rw [withdrawals_append, ih, hrun.cancellations_append, System.withdrawals_of_step hs]
    simp [System.cancellations, hs]

theorem System.isCancelled_of_entryOf? (he : s.entryOf? id = some e)
    (hc : e.record.status = .cancelled) : s.isCancelled id = true :=
  System.isCancelled_iff.mpr ⟨e, he, hc⟩

theorem System.Moves.withdrawals_le (h : s.Moves settings p t sent)
    (hb : withdrawals id messages ≤ (s.isCancelled id).toNat) :
    withdrawals id (messages ++ sent) ≤ (t.isCancelled id).toNat := by
  have hkeep : (s.isCancelled id).toNat ≤ (t.isCancelled id).toNat := by
    cases hc : s.isCancelled id with
    | false => exact Nat.zero_le _
    | true =>
      obtain ⟨e, he, hst⟩ := System.isCancelled_iff.mp hc
      have ht : e.record.status.isTerminal = true := by simp [hst, Status.isTerminal]
      exact Nat.le_of_eq (by rw [isCancelled_of_entryOf? (h.entryOf?_of_isTerminal he ht) hst])
  rw [withdrawals_append]
  cases h with
  | @cancelled id' e₀ e' now he₀ ha =>
    rw [withdrawals_cancel]
    split
    · rename_i hi
      subst hi
      have hcancel : s.cancel id' now = .ok (s.setEntry id' e'.interrupt, e'.interrupt) := by
        simp [cancel, he₀, ha]
      have hfresh : s.isCancelled id' = false := by
        refine Bool.eq_false_iff.mpr fun hc ↦ ?_
        obtain ⟨e, he, hst⟩ := System.isCancelled_iff.mp hc
        obtain rfl : e₀ = e := Option.some.inj (he₀.symm.trans he)
        exact Entry.not_apply_of_isTerminal (by simp [hst, Status.isTerminal]) ha
      obtain ⟨he, hst⟩ := cancel_ok hcancel
      rw [isCancelled_of_entryOf? he hst, Bool.toNat_true]
      rw [hfresh, Bool.toNat_false] at hb
      omega
    · exact Nat.le_trans hb hkeep
  | happened =>
    rw [withdrawals_submit]
    exact Nat.le_trans hb hkeep
  | _ => exact Nat.le_trans hb hkeep

theorem Run.withdrawals_le_one (h : Run settings p .empty labels messages s) (id : Identifier) :
    withdrawals id messages ≤ 1 := by
  have hle := h.keeps (P := fun t before ↦ withdrawals id before ≤ (t.isCancelled id).toNat)
    (Nat.le_refl 0) fun _ _ _ _ hb hm ↦ hm.withdrawals_le hb
  exact Nat.le_trans hle (Bool.toNat_le _)

end FleetControl.Dispatch
