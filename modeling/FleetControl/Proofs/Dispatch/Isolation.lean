import FleetControl.Proofs.Dispatch.Origin
import FleetControl.Rehearsal.Timed

namespace FleetControl.Dispatch

open Rehearsal (Deliveries Pace Timed isDue pacesAfter)

namespace System

/-- The dispatcher as one device has it: its commands, in their order, and its lane. -/
def share (s : System) (device : String) : System :=
  ⟨s.entries.filter fun e ↦ e.record.device == device, s.lanes.filter fun l ↦ l.device == device⟩

def owns (s : System) (device : String) (id : Identifier) : Bool :=
  (s.entryOf? id).any fun e ↦ e.record.device == device

end System

/-- Whether a label is about a device. Which commands are its own is told by `s`. -/
def Label.concerns (s : System) (device : String) : Label → Bool
  | .submit _ _ submission => submission.device == device
  | .cancel id _ => s.owns device id
  | .take device' => device' == device
  | .happen device' _ => device' == device

def Message.concerns (s : System) (device : String) : Message → Bool
  | .submit r => r.device == device
  | .cancel id => s.owns device id

variable {settings : Settings} {p : Retry.Policy} {s t u : System} {labels : List Label}
  {messages sent : List Message} {id : Identifier} {device device' : String} {e : Entry} {l : Lane}

namespace System

theorem entryOf?_share (hd : (s.entries.map fun e ↦ e.record.id).Nodup) (id : Identifier) :
    (s.share device).entryOf? id = (s.entryOf? id).filter fun e ↦ e.record.device == device :=
  find?_filter_key (fun e : Entry ↦ e.record.id) hd _ id

theorem lane?_share (s : System) (device : String) :
    (s.share device).lane? device = s.lane? device := by
  unfold lane? share
  rw [List.find?_filter]
  refine congrArg (List.find? · s.lanes) (funext fun l ↦ ?_)
  cases hl : l.device == device <;> simp

theorem share_setLane (s : System) (l : Lane) (device : String) :
    (s.setLane l).share device =
      if l.device = device then (s.share device).setLane l else s.share device := by
  have hkeep : ∀ b ∈ s.lanes, b.device = l.device → (b.device == device) = (l.device == device) :=
    fun b _ hb ↦ by rw [hb]
  have hlanes := filter_replace Lane.device l.device l (fun l ↦ l.device == device) hkeep
  unfold share setLane
  rw [hlanes]
  by_cases hd : l.device = device
  · rw [if_pos (beq_iff_eq.mpr hd), if_pos hd]
  · rw [if_neg (by simpa using hd), if_neg hd]

theorem share_setEntry (hd : (s.entries.map fun e ↦ e.record.id).Nodup) {e₀ : Entry}
    (he : s.entryOf? id = some e₀) (hdev : e.record.device = e₀.record.device) :
    (s.setEntry id e).share device =
      if e₀.record.device = device then (s.share device).setEntry id e else s.share device := by
  have hkeep : ∀ b ∈ s.entries, b.record.id = id →
      (b.record.device == device) = (e.record.device == device) := by
    intro b hb hid
    have hfound := find?_key_of_mem (fun e : Entry ↦ e.record.id) hd hb
    rw [hid] at hfound
    obtain rfl : b = e₀ := Option.some.inj (hfound.symm.trans he)
    rw [hdev]
  have hentries := filter_replace (fun e : Entry ↦ e.record.id) id e
    (fun e ↦ e.record.device == device) hkeep
  unfold share setEntry
  rw [hentries, hdev]
  by_cases hown : e₀.record.device = device
  · rw [if_pos (beq_iff_eq.mpr hown), if_pos hown]
  · rw [if_neg (by simpa using hown), if_neg hown]

theorem share_enqueue (s : System) (device' : String) (id : Identifier) (device : String) :
    (s.enqueue device' id).share device =
      if device' = device then (s.share device).enqueue device' id else s.share device := by
  unfold enqueue
  by_cases hd : device' = device
  · subst hd
    rw [if_pos rfl, lane?_share]
    cases hl : s.lane? device' with
    | some l =>
      have hl' := device_of_lane? hl
      have hpush : (l.push id).device = device' := hl'
      exact (share_setLane s (l.push id) device').trans (if_pos hpush)
    | none => simp [share, Lane.push, Lane.new]
  · rw [if_neg hd]
    cases hl : s.lane? device' with
    | some l =>
      have hl' := device_of_lane? hl
      have hpush : (l.push id).device = device' := hl'
      exact (share_setLane s (l.push id) device).trans (if_neg (hpush ▸ hd))
    | none => simp [share, Lane.push, Lane.new, hd]

theorem share_accept (s : System) (record : Command.Record) (device : String) :
    (s.accept record).share device =
      if record.device = device then (s.share device).accept record else s.share device := by
  refine (share_enqueue { s with entries := s.entries ++ [.new record] } _ _ device).trans ?_
  by_cases hd : record.device = device
  · rw [if_pos hd, if_pos hd]
    simp [accept, share, Entry.new, hd]
  · rw [if_neg hd, if_neg hd]
    simp [share, Entry.new, hd]

theorem submit_share {now : Instant} {submission : Submission} (hd : submission.device = device) :
    (s.share device).submit settings id now submission =
      (s.submit settings id now submission).map fun (t, record) ↦ (t.share device, record) := by
  unfold submit
  cases ha : submission.accept settings with
  | error error => rfl
  | ok order =>
    have hown : order.device = device := (Submission.permits_of_accept ha).device.trans hd
    have hshare := share_accept s
      (.new id now order.device order.action order.parameters order.priority) device
    rw [if_pos (by exact hown)] at hshare
    exact congrArg Except.ok (Prod.ext hshare.symm rfl)

theorem cancel_share {now : Instant} (hids : (s.entries.map fun e ↦ e.record.id).Nodup)
    (hown : ∀ e, s.entryOf? id = some e → e.record.device = device) :
    (s.share device).cancel id now =
      (s.cancel id now).map fun (t, e) ↦ (t.share device, e) := by
  unfold cancel
  rw [entryOf?_share hids]
  cases he : s.entryOf? id with
  | none => rfl
  | some e =>
    have hd := hown e he
    rw [Option.filter_some_pos (by simpa using hd)]
    cases ha : e.apply now .cancel with
    | error bad => simp [ha, Except.map]
    | ok e' =>
      have hdev : e'.interrupt.record.device = e.record.device := (Entry.apply_ok ha).2.2.1
      simp [ha, Except.map, share_setEntry hids he hdev, hd]

theorem take?_share (s : System) (device : String) :
    (s.share device).take? device = (s.take? device).map fun t ↦ t.share device := by
  unfold take?
  rw [lane?_share]
  cases hl : s.lane? device with
  | none => rfl
  | some l =>
    rw [Option.bind_some, Option.bind_some, Option.map_map]
    refine Option.map_congr fun l' hl' ↦ ?_
    obtain ⟨id, rest, -, -, rfl⟩ := Lane.take?_eq_some hl'
    have hd := device_of_lane? hl
    have hshare := share_setLane s ⟨l.device, rest, .taken id⟩ device
    rw [if_pos hd] at hshare
    exact hshare.symm

theorem happen?_share (h : Custody s) (device : String) (happening : Happening) :
    (s.share device).happen? p device happening =
      (s.happen? p device happening).map fun (t, request) ↦ (t.share device, request) := by
  unfold happen?
  rw [lane?_share]
  cases hl : s.lane? device with
  | none => rfl
  | some l =>
    rw [Option.bind_some, Option.bind_some]
    cases hc : l.hand.command? with
    | none => rfl
    | some id =>
      have hlane := laneOf_of_lane? hl
      have hl' := device_of_lane? hl
      obtain ⟨e, he, hd⟩ := h.owned (Lane.held_of_command? (hlane.symm ▸ hc))
      rw [Option.bind_some, Option.bind_some, entryOf?_share h.ids, he,
        Option.filter_some_pos (by simpa using hd), Option.bind_some, Option.bind_some,
        Option.map_map]
      refine Option.map_congr fun step hstep ↦ ?_
      have hm := Hand.moves_of_step hstep
      have hentry : (s.setEntry id step.entry).share device = _ :=
        share_setEntry h.ids he hm.keeps_entry.2.1
      rw [if_pos hd] at hentry
      have hshare := share_setLane (s.setEntry id step.entry) { l with hand := step.hand } device
      rw [if_pos hl', hentry] at hshare
      exact Prod.ext hshare.symm rfl

def Knows (u s : System) : Prop :=
  ∀ id e, s.entryOf? id = some e → ∃ e', u.entryOf? id = some e' ∧ e'.record.device = e.record.device

theorem Knows.owns (h : u.Knows s) (he : s.entryOf? id = some e) (device : String) :
    u.owns device id = (e.record.device == device) := by
  obtain ⟨e', he', hd⟩ := h id e he
  simp [System.owns, he', hd]

theorem step_share {label : Label} (h : Custody s) (hu : u.Knows s)
    (hl : label.concerns u device = true) :
    (s.share device).step settings p label =
      (s.step settings p label).map fun (t, sent) ↦ (t.share device, sent) := by
  cases label with
  | submit id now submission =>
    have hd : submission.device = device := beq_iff_eq.mp hl
    simp only [step, submit_share hd]
    cases s.submit settings id now submission <;> rfl
  | cancel id now =>
    have hown : ∀ e, s.entryOf? id = some e → e.record.device = device := fun e he ↦
      beq_iff_eq.mp ((hu.owns he device).symm.trans hl)
    simp only [step, cancel_share h.ids hown]
    cases s.cancel id now <;> rfl
  | take device' =>
    obtain rfl : device' = device := beq_iff_eq.mp hl
    simp only [step, take?_share, Option.map_map]
    rfl
  | happen device' happening =>
    obtain rfl : device' = device := beq_iff_eq.mp hl
    simp only [step, happen?_share h, Option.map_map]
    rfl

theorem share_of_step {label : Label} (h : Custody s) (hu : u.Knows s)
    (hl : label.concerns u device = false) (hs : s.step settings p label = some (t, sent)) :
    t.share device = s.share device := by
  cases does_of_step hs with
  | rejected => rfl
  | @submitted _ _ _ order ha =>
    have hd : order.device ≠ device := by
      rw [(Submission.permits_of_accept ha).device]
      simpa [Label.concerns] using hl
    exact (share_accept s _ device).trans (if_neg hd)
  | refused => rfl
  | @cancelled id e e' now he ha =>
    have hd : e.record.device ≠ device := by
      simpa using (hu.owns he device).symm.trans hl
    have hdev : e'.interrupt.record.device = e.record.device := (Entry.apply_ok ha).2.2.1
    exact (share_setEntry h.ids he hdev).trans (if_neg hd)
  | @taken l =>
    have hd : l.device ≠ device := by simpa [Label.concerns] using hl
    exact (share_setLane s _ device).trans (if_neg hd)
  | @happened l id e _ st hlane hc he hstep =>
    have hd : l.device ≠ device := by simpa [Label.concerns] using hl
    have hown := h.device_of_command? hlane hc he
    have hentry : (s.setEntry id st.entry).share device = _ :=
      share_setEntry h.ids he (Hand.moves_of_step hstep).keeps_entry.2.1
    rw [if_neg (hown ▸ hd)] at hentry
    exact (share_setLane _ _ device).trans ((if_neg hd).trans hentry)

theorem concerns_of_sent {label : Label} (h : Custody s)
    (hs : s.step settings p label = some (t, sent)) (u : System) (device : String) :
    ∀ m ∈ sent, m.concerns u device = label.concerns u device := by
  intro m hm
  cases does_of_step hs with
  | cancelled =>
    rw [List.mem_singleton.mp hm]
    rfl
  | @happened l _ _ _ _ hlane hc he hstep =>
    simp only [List.mem_map, Option.mem_toList] at hm
    obtain ⟨r, hr, rfl⟩ := hm
    have hdev : r.device = l.device := by
      rw [(Hand.moves_of_step hstep).sent_request hr]
      exact h.device_of_command? hlane hc he
    simp only [Message.concerns, Label.concerns, hdev]
  | _ => cases hm

theorem filter_of_sent {label : Label} (h : Custody s)
    (hs : s.step settings p label = some (t, sent)) (u : System) (device : String) :
    sent.filter (Message.concerns u device) =
      if label.concerns u device = true then sent else [] := by
  have hall := concerns_of_sent h hs u device
  split
  · rename_i hl
    exact List.filter_eq_self.mpr fun m hm ↦ (hall m hm).trans hl
  · rename_i hl
    exact List.filter_eq_nil_iff.mpr fun m hm ↦ (hall m hm) ▸ hl

theorem share_cases {label : Label} (h : Custody s) (hu : u.Knows s) (device : String)
    (hs : s.step settings p label = some (t, sent)) :
    (label.concerns u device = true ∧
      (s.share device).step settings p label = some (t.share device, sent) ∧
      sent.filter (Message.concerns u device) = sent) ∨
    (label.concerns u device = false ∧ t.share device = s.share device ∧
      sent.filter (Message.concerns u device) = []) := by
  have hsent := filter_of_sent h hs u device
  cases hl : label.concerns u device with
  | true => exact Or.inl ⟨rfl, by rw [step_share h hu hl, hs]; rfl, by simpa [hl] using hsent⟩
  | false => exact Or.inr ⟨rfl, share_of_step h hu hl hs, by simpa [hl] using hsent⟩

theorem admits_share {label : Label} (h : Custody s) (hl : s.admits label) :
    (s.share device).admits label := by
  cases label with
  | submit id now submission =>
    have hn : s.entryOf? id = none := Option.isNone_iff_eq_none.mp hl
    exact Option.isNone_iff_eq_none.mpr (by rw [entryOf?_share h.ids, hn, Option.filter_none])
  | _ => trivial

theorem Knows.of_moves (h : u.Knows t) (hm : s.Moves settings p t sent) : u.Knows s := by
  intro id e he
  obtain ⟨e', he', hd'⟩ := hm.tracked he
  obtain ⟨e'', he'', hd''⟩ := h id e' he'
  exact ⟨e'', he'', hd''.trans hd'⟩

theorem Knows.refl (s : System) : s.Knows s := fun _ e he ↦ ⟨e, he, rfl⟩

theorem laneOf_share (s : System) (device : String) :
    (s.share device).laneOf device = s.laneOf device := by
  rw [laneOf, lane?_share, laneOf]

theorem history_share (s : System) (device : String) (limit : Option ℕ) :
    (s.share device).history settings device limit = s.history settings device limit := by
  simp [history, share, List.filter_map, Function.comp_def]

end System

theorem requests_filter (u : System) (device : String) (messages : List Message) :
    requests (messages.filter (Message.concerns u device)) =
      (requests messages).filter fun r ↦ r.device == device := by
  induction messages with
  | nil => rfl
  | cons m messages ih =>
    unfold requests at ih ⊢
    cases m with
    | submit r =>
      by_cases hr : r.device = device <;>
        simp [Message.concerns, Message.request?, hr, ih]
    | cancel id =>
      rw [List.filter_cons, List.filterMap_cons_none (f := Message.request?) rfl, ← ih]
      split
      · exact List.filterMap_cons_none rfl
      · rfl

theorem Custody.run (hs : Custody s) (h : Run settings p s labels messages t) : Custody t :=
  h.keeps (P := fun t _ ↦ Custody t) hs fun _ _ _ _ ht hm ↦ ht.moves hm

/-- The labels about a device make a run of their own, on its share. -/
theorem Run.share (h : Run settings p s labels messages t) (hs : Custody s) (hu : u.Knows t)
    (device : String) :
    Run settings p (s.share device) (labels.filter (Label.concerns u device))
      (messages.filter (Message.concerns u device)) (t.share device) := by
  induction h with
  | nil => exact .nil
  | @snoc labels messages sent t v label h hl hstep ih =>
    have ht := hs.run h
    have hut := hu.of_moves (System.moves_of_step hl hstep)
    rw [List.filter_append, List.filter_append]
    rcases System.share_cases ht hut device hstep with ⟨hc, hown, hsent⟩ | ⟨hc, hkeep, hsent⟩
    · rw [hsent, List.filter_cons_of_pos hc, List.filter_nil]
      exact (ih hut).snoc (System.admits_share ht hl) hown
    · rw [hsent, List.filter_cons_of_neg (Bool.eq_false_iff.mp hc), List.filter_nil,
        List.append_nil, List.append_nil, hkeep]
      exact ih hut

theorem Run.unique (h : Run settings p s labels messages t) {messages' : List Message} {t' : System}
    (h' : Run settings p s labels messages' t') : messages' = messages ∧ t' = t := by
  induction h generalizing messages' t' with
  | nil =>
    generalize hl : [] = labels at h'
    cases h' with
    | nil => exact ⟨rfl, rfl⟩
    | snoc => simp at hl
  | @snoc labels messages sent t v label h hl hstep ih =>
    generalize hl' : labels ++ [label] = labels' at h'
    cases h' with
    | nil => simp at hl'
    | @snoc labels' messages' sent' t' v' label' h' hl'' hstep' =>
      obtain ⟨rfl, hlast⟩ := List.append_inj' hl' rfl
      obtain rfl := List.singleton_inj.mp hlast
      obtain ⟨rfl, rfl⟩ := ih h'
      obtain ⟨rfl, rfl⟩ := Prod.mk.inj (Option.some.inj (hstep.symm.trans hstep'))
      exact ⟨rfl, rfl⟩

section Timed

variable {script : Deliveries} {now time : Span} {paces paces' : String → Pace}
  {timed : List (Span × Label)}

theorem timed_run (h : Timed settings p script timed messages now paces s) :
    Run settings p .empty (timed.map Prod.snd) messages s := by
  induction h with
  | nil => exact .nil
  | snoc _ _ hl _ hs ih =>
    rw [List.map_append]
    exact ih.snoc hl hs

theorem isInterrupted_share (h : Custody s) (device : String) :
    Rehearsal.isInterrupted (s.share device) (s.laneOf device) =
      Rehearsal.isInterrupted s (s.laneOf device) := by
  unfold Rehearsal.isInterrupted
  cases hc : (s.laneOf device).hand.command? with
  | none => rfl
  | some id =>
    obtain ⟨e, he, hd⟩ := h.owned (Lane.held_of_command? hc)
    rw [Option.bind_some, Option.bind_some, System.entryOf?_share h.ids, he,
      Option.filter_some_pos (by simpa using hd)]

theorem isDue_share {label : Label} (h : Custody s) (hl : label.concerns u device = true)
    (hpace : paces' device = paces device) (hd : Rehearsal.isDue s paces time label) :
    Rehearsal.isDue (s.share device) paces' time label := by
  cases label with
  | submit id now submission => exact hd
  | cancel id now => exact hd
  | take device' =>
    obtain rfl : device' = device := beq_iff_eq.mp hl
    simpa only [Rehearsal.isDue, System.laneOf_share, isInterrupted_share h, hpace] using hd
  | happen device' happening =>
    obtain rfl : device' = device := beq_iff_eq.mp hl
    simpa only [Rehearsal.isDue, System.laneOf_share, isInterrupted_share h, hpace] using hd

theorem pacesAfter_share {label : Label} (hl : label.concerns u device = true)
    (hpace : paces' device = paces device) (s t : System) :
    Rehearsal.pacesAfter p script (s.share device) (t.share device) time paces' label device =
      Rehearsal.pacesAfter p script s t time paces label device := by
  cases label with
  | happen device' happening =>
    obtain rfl : device' = device := beq_iff_eq.mp hl
    simp only [Rehearsal.pacesAfter, System.laneOf_share, hpace]
  | _ => exact hpace

theorem pacesAfter_of_not_concerns {label : Label} (hl : label.concerns u device = false)
    (s t : System) :
    Rehearsal.pacesAfter p script s t time paces label device = paces device := by
  cases label with
  | happen device' happening =>
    have hne : device' ≠ device := by simpa [Label.concerns] using hl
    exact if_neg (Ne.symm hne)
  | _ => rfl

/-- The labels about a device come at the same times in its own run, and its lane keeps its pace. -/
theorem timed_share (h : Timed settings p script timed messages now paces s) (hu : u.Knows s)
    (device : String) :
    ∃ now' paces', now' ≤ now ∧ paces' device = paces device ∧
      Timed settings p script (timed.filter fun l ↦ l.2.concerns u device)
        (messages.filter (Message.concerns u device)) now' paces' (s.share device) := by
  induction h with
  | nil => exact ⟨0, _, Nat.le_refl 0, rfl, .nil⟩
  | @snoc timed messages sent now time paces s t label h hle hl hdue hstep ih =>
    have hs := (timed_run h).custody
    have hus := hu.of_moves (System.moves_of_step hl hstep)
    obtain ⟨now', paces', hnow, hpace, hrun⟩ := ih hus
    rw [List.filter_append, List.filter_append]
    rcases System.share_cases hs hus device hstep with ⟨hc, hown, hsent⟩ | ⟨hc, hkeep, hsent⟩
    · rw [hsent, List.filter_cons_of_pos (by exact hc), List.filter_nil]
      exact ⟨time, _, Nat.le_refl time, pacesAfter_share hc hpace s t,
        hrun.snoc (Nat.le_trans hnow hle) (System.admits_share hs hl) (isDue_share hs hc hpace hdue)
          hown⟩
    · rw [hsent, List.filter_cons_of_neg (by simpa using hc), List.filter_nil,
        List.append_nil, List.append_nil, hkeep]
      exact ⟨now', paces', Nat.le_trans hnow hle,
        hpace.trans (pacesAfter_of_not_concerns hc s t).symm, hrun⟩

end Timed

/-- What happens to a device is its own affair. The labels about it, by themselves, are a run, in which
at every moment its commands, its lane and its history are the same, the same can happen next, the same
requests are sent for it, and, in time, all of it at the same times and for the same replies. Two runs
that agree in these labels agree in all of that, whatever the other devices do. -/
theorem device_isolated {before after : List Label} {m₁ m₂ : List Message}
    (h₁ : Run settings p .empty before m₁ t) (h₂ : Run settings p t after m₂ s) (device : String) :
    Run settings p .empty (before.filter (Label.concerns s device))
      (m₁.filter (Message.concerns s device)) (t.share device) ∧
    Run settings p (t.share device) (after.filter (Label.concerns s device))
      (m₂.filter (Message.concerns s device)) (s.share device) ∧
    (∀ label, label.concerns t device = true → (t.share device).step settings p label =
      (t.step settings p label).map fun (t', sent) ↦ (t'.share device, sent)) ∧
    requests (m₁.filter (Message.concerns s device)) =
      (requests m₁).filter (fun r ↦ r.device == device) ∧
    (∀ id e, (t.share device).entryOf? id = some e ↔
      t.entryOf? id = some e ∧ e.record.device = device) ∧
    (t.share device).laneOf device = t.laneOf device ∧
    (∀ limit, (t.share device).history settings device limit = t.history settings device limit) ∧
    (∀ script timed messages now paces, Timed settings p script timed messages now paces s →
      ∃ now' paces', now' ≤ now ∧ paces' device = paces device ∧
        Timed settings p script (timed.filter fun l ↦ l.2.concerns s device)
          (messages.filter (Message.concerns s device)) now' paces' (s.share device)) ∧
    ∀ labels messages s', Run settings p .empty labels messages s' →
      labels.filter (Label.concerns s' device) =
        (before ++ after).filter (Label.concerns s device) →
      messages.filter (Message.concerns s' device) =
        (m₁ ++ m₂).filter (Message.concerns s device) ∧ s'.share device = s.share device := by
  have ht := h₁.custody
  have hknows : s.Knows t := fun id e he ↦ h₂.tracked he
  have hown := (h₁.trans h₂).share custody_empty (System.Knows.refl s) device
  refine ⟨h₁.share custody_empty hknows device, h₂.share ht (System.Knows.refl s) device,
    fun label hl ↦ System.step_share ht (System.Knows.refl t) hl, requests_filter s device m₁, ?_,
    System.laneOf_share t device, System.history_share t device, ?_, ?_⟩
  · intro id e
    rw [System.entryOf?_share ht.ids, Option.filter_eq_some_iff, beq_iff_eq]
  · intro script timed messages now paces h
    exact timed_share h (System.Knows.refl s) device
  · intro labels messages s' h' hl
    have hown' := h'.share custody_empty (System.Knows.refl s') device
    rw [hl] at hown'
    exact hown.unique hown'

def answered : List (Span × Label) :=
  [(5, .submit ⟨2⟩ (.ofMillis 5) ⟨"drone-7", "capture_photo", [], none, false⟩),
    (5, .take "drone-7"), (5, .happen "drone-7" (.dispatch (.ofMillis 5))),
    (5, .happen "drone-7" .begin), (35, .happen "drone-7" (.answered (.value .null))),
    (35, .happen "drone-7" (.settle (.ofMillis 35)))]

def besideHanging : List (Span × Label) :=
  [(0, .submit ⟨1⟩ (.ofMillis 0) ⟨"drone-9", "capture_photo", [], none, false⟩),
    (0, .take "drone-9"), (0, .happen "drone-9" (.dispatch (.ofMillis 0))),
    (0, .happen "drone-9" .begin),
    (5, .submit ⟨2⟩ (.ofMillis 5) ⟨"drone-7", "capture_photo", [], none, false⟩),
    (5, .take "drone-7"), (5, .happen "drone-7" (.dispatch (.ofMillis 5))),
    (5, .happen "drone-7" .begin),
    (20, .cancel ⟨1⟩ (.ofMillis 20)), (20, .happen "drone-9" .interrupted),
    (35, .happen "drone-7" (.answered (.value .null))),
    (35, .happen "drone-7" (.settle (.ofMillis 35)))]

def hangsFirst : Deliveries := fun id _ ↦
  if id = ⟨1⟩ then ⟨0, none⟩ else ⟨30, some (.ok .null)⟩

def Unfolds (settings : Settings) (p : Retry.Policy) (script : Deliveries) (holds : System → Prop) :
    List (Span × Label) → Span → (String → Pace) → System → Prop
  | [], _, _, s => holds s
  | (time, label) :: rest, now, paces, s =>
    now ≤ time ∧ s.admits label ∧ isDue s paces time label ∧ ∃ t sent,
      s.step settings p label = some (t, sent) ∧
        Unfolds settings p script holds rest time (pacesAfter p script s t time paces label) t

theorem Unfolds.timed {settings : Settings} {script : Deliveries} {holds : System → Prop}
    {timed more : List (Span × Label)} {now : Span} {paces : String → Pace}
    (h : Unfolds settings p script holds more now paces s)
    (hs : Timed settings p script timed messages now paces s) : ∃ messages now paces t,
      Timed settings p script (timed ++ more) messages now paces t ∧ holds t := by
  induction more generalizing timed messages now paces s with
  | nil => exact ⟨messages, now, paces, s, (List.append_nil timed).symm ▸ hs, h⟩
  | cons next more ih =>
    obtain ⟨time, label⟩ := next
    obtain ⟨hle, hadmits, hdue, t, sent, hstep, hmore⟩ := h
    have hall := ih hmore (hs.snoc hle hadmits hdue hstep)
    rwa [List.append_assoc, List.singleton_append] at hall

theorem timed_besideHanging : ∃ messages now paces s,
    Timed .standard .standard hangsFirst besideHanging messages now paces s ∧
      s.owns "drone-7" ⟨1⟩ = false ∧
      s.entries.map (fun e ↦ e.record.status) = [.cancelled, .completed] := by
  refine Unfolds.timed ?_ .nil
  iterate 12 refine ⟨by decide, by decide, by rfl, _, _, by rfl, ?_⟩
  exact ⟨by decide, by decide⟩

theorem device_isolated_besideHanging : ∃ messages now paces s now' paces',
    Timed .standard .standard hangsFirst besideHanging messages now paces s ∧
      Timed .standard .standard hangsFirst answered
        (messages.filter (Message.concerns s "drone-7")) now' paces' (s.share "drone-7") ∧
      s.entries.map (fun e ↦ e.record.status) = [.cancelled, .completed] := by
  obtain ⟨messages, now, paces, s, h, hother, hstatuses⟩ := timed_besideHanging
  have hisolated := device_isolated (timed_run h) .nil "drone-7"
  obtain ⟨-, -, -, -, -, -, -, htimed, -⟩ := hisolated
  obtain ⟨now', paces', -, -, hown⟩ := htimed _ _ _ _ _ h
  have hanswered : (besideHanging.filter fun l ↦ l.2.concerns s "drone-7") = answered := by
    simp [besideHanging, answered, Label.concerns, hother]
  exact ⟨messages, now, paces, s, now', paces', h, hanswered ▸ hown, hstatuses⟩

end FleetControl.Dispatch
