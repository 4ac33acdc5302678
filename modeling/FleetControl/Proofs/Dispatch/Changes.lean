import FleetControl.Proofs.Dispatch.Origin

namespace FleetControl.Dispatch

variable {settings : Settings} {p : Retry.Policy} {s t u : System} {labels : List Label}
  {messages sent sent' : List Message} {id : Identifier} {e : Entry}

namespace System

/-- One more command, pending, at the end of all commands and at the end of the lane of its device. -/
structure Adds (s t : System) (record : Command.Record) : Prop where
  pending : record.status = .pending
  entries : t.entries = s.entries ++ [.new record]
  accepted (device : String) : t.accepted device =
    s.accepted device ++ if device = record.device then [record.id] else []
  queue (device : String) : (t.laneOf device).queue =
    (s.laneOf device).queue ++ if device = record.device then [record.id] else []
  hand (device : String) : (t.laneOf device).hand = (s.laneOf device).hand

structure Cancels (s t : System) (id : Identifier) : Prop where
  entry : ∃ before e e' after, s.entries = before ++ e :: after ∧ t.entries = before ++ e' :: after ∧
    e.record.id = id ∧ e.record.status.isTerminal = false ∧
    e'.record.id = id ∧ e'.record.device = e.record.device ∧ e'.record.status = .cancelled
  lanes : t.lanes = s.lanes

/-- The lanes go on by themselves: no command comes or goes, queues get shorter from the front only,
nothing is withdrawn, and what is sent is for commands that were there. -/
structure GoesOn (s t : System) (sent : List Message) : Prop where
  commands : t.entries.map (fun e ↦ (e.record.id, e.record.device)) =
    s.entries.map fun e ↦ (e.record.id, e.record.device)
  queue (device : String) : (t.laneOf device).queue <:+ (s.laneOf device).queue
  withdrawals : sent.filterMap Message.withdrawal? = []
  requests : ∀ r ∈ requests sent, (s.entryOf? r.command).isSome = true

theorem adds_accept {record : Command.Record} (hp : record.status = .pending) :
    s.Adds (s.accept record) record where
  pending := hp
  entries := by simp [accept]
  accepted := accepted_accept record
  queue := queue_accept
  hand := hand_accept

theorem entries_setEntry (hs : Custody s) (he : s.entryOf? id = some e) :
    ∃ before after, s.entries = before ++ e :: after ∧
      ∀ e', (s.setEntry id e').entries = before ++ e' :: after := by
  obtain ⟨before, after, hsplit⟩ := List.append_of_mem (mem_of_entryOf? he)
  have hid := id_of_entryOf? he
  have hd := hs.ids
  rw [hsplit, List.map_append, List.map_cons, hid, List.nodup_append, List.nodup_cons] at hd
  obtain ⟨-, ⟨hafter, -⟩, hbefore⟩ := hd
  have hkeep (e' : Entry) {entries : List Entry} (hno : ∀ b ∈ entries, b.record.id ≠ id) :
      (entries.map fun b ↦ if b.record.id == id then e' else b) = entries :=
    (List.map_congr_left fun b hb ↦ if_neg (by simpa using hno b hb)).trans (List.map_id _)
  refine ⟨before, after, hsplit, fun e' ↦ ?_⟩
  rw [setEntry, hsplit, List.map_append, List.map_cons, if_pos (by simpa using hid),
    hkeep e' fun b hb hbid ↦ hbefore b.record.id (List.mem_map_of_mem hb) id List.mem_cons_self hbid,
    hkeep e' fun b hb hbid ↦ hafter (List.mem_map.mpr ⟨b, hb, hbid⟩)]

theorem cancels_of_cancel (hs : Custody s) {now : Instant} (h : s.cancel id now = .ok (t, e)) :
    s.Cancels t id := by
  obtain ⟨e₀, e', he, ha, rfl, rfl⟩ := cancel_eq_ok h
  obtain ⟨hn, hid, hdev, -⟩ := Entry.apply_ok ha
  obtain ⟨before, after, hsplit, hset⟩ := entries_setEntry hs he
  have hopen : e₀.record.status.isTerminal = false := by
    cases hst : e₀.record.status <;> simp_all [Command.Status.next?, Command.Status.isTerminal]
  exact ⟨⟨before, e₀, e'.interrupt, after, hsplit, hset _, id_of_entryOf? he, hopen,
    hid.trans (id_of_entryOf? he), hdev, status_of_cancel hn⟩, rfl⟩

namespace GoesOn

theorem refl (s : System) : s.GoesOn s [] where
  commands := rfl
  queue _ := List.suffix_rfl
  withdrawals := rfl
  requests _ hr := by cases hr

theorem isSome_entryOf? (h : s.GoesOn t sent) (id : Identifier) :
    (t.entryOf? id).isSome = (s.entryOf? id).isSome := by
  have hany (u : System) : (u.entryOf? id).isSome =
      (u.entries.map fun e ↦ (e.record.id, e.record.device)).any fun row ↦ row.1 == id := by
    simp [entryOf?, List.any_map, Function.comp_def, List.isSome_find?]
  rw [hany, hany, h.commands]

theorem trans (h : s.GoesOn t sent) (h' : t.GoesOn u sent') : s.GoesOn u (sent ++ sent') where
  commands := h'.commands.trans h.commands
  queue device := (h'.queue device).trans (h.queue device)
  withdrawals := by rw [List.filterMap_append, h.withdrawals, h'.withdrawals, List.append_nil]
  requests r hr := by
    rw [Dispatch.requests, List.filterMap_append, List.mem_append] at hr
    rcases hr with hr | hr
    · exact h.requests r hr
    · exact h.isSome_entryOf? r.command ▸ h'.requests r hr

theorem start {l : Lane} {rest : List Identifier} (hl : s.lane? l.device = some l)
    (hq : l.queue = id :: rest) : s.GoesOn (s.start l id rest) [] where
  commands := rfl
  queue device := by
    rw [laneOf_start hl]
    split
    · rename_i hd
      rw [hd, laneOf_of_lane? hl, hq]
      exact List.suffix_cons id rest
    · exact List.suffix_rfl
  withdrawals := rfl
  requests _ hr := by cases hr

theorem advance (hs : Custody s) {l : Lane} {step : Step} (hl : s.lane? l.device = some l)
    (he : s.entryOf? id = some e) (hm : l.hand.Moves p e step) :
    s.GoesOn (s.advance l id step) (step.sent.toList.map .submit) where
  commands := hs.rows_setEntry he hm.keeps_entry.1 hm.keeps_entry.2.1
  queue device := by simp only [queue_advance hl, List.suffix_rfl]
  withdrawals := by cases step.sent <;> rfl
  requests r hr := by
    cases hsent : step.sent with
    | none => simp [hsent, Dispatch.requests] at hr
    | some r' =>
      obtain rfl : r = r' := by simpa [hsent, Dispatch.requests, Message.request?] using hr
      have hid : r.command = id := by rw [hm.sent_request hsent, ← id_of_entryOf? he]; rfl
      simp [hid, he]

end GoesOn

end System

def Unattended (labels : List Label) : Prop := ∀ label ∈ labels, label.lane?.isSome = true

instance (labels : List Label) : Decidable (Unattended labels) :=
  inferInstanceAs (Decidable (∀ label ∈ labels, label.lane?.isSome = true))

theorem System.goesOn_of_step (hs : Custody s) {label : Label} (hl : label.lane?.isSome = true)
    (h : s.step settings p label = some (t, sent)) : s.GoesOn t sent := by
  cases does_of_step h with
  | taken hlane _ hq => exact .start hlane hq
  | happened hlane _ he hstep => exact .advance hs hlane he (Hand.moves_of_step hstep)
  | _ => cases hl

theorem Run.goesOn (h : Run settings p s labels messages t) (hs : Custody s)
    (hl : Unattended labels) : s.GoesOn t messages := by
  suffices Custody t ∧ s.GoesOn t messages from this.2
  induction h with
  | nil => exact ⟨hs, .refl s⟩
  | @snoc labels messages sent t u label hrun ha hstep ih =>
    obtain ⟨ht, hgo⟩ := ih fun l hm ↦ hl l (List.mem_append_left _ hm)
    have hlabel := hl label (List.mem_append_right _ (List.mem_singleton_self _))
    exact ⟨ht.moves (System.moves_of_step ha hstep),
      hgo.trans (System.goesOn_of_step ht hlabel hstep)⟩

end FleetControl.Dispatch
