import FleetControl.Proofs.Dispatch.Custody
import Mathlib.Data.List.Flatten

namespace FleetControl.Dispatch

open Command (Status)

variable {settings : Settings} {p : Retry.Policy} {s t : System} {labels : List Label}
  {messages : List Message}

theorem Lane.mem_waiting {l : Lane} {id : Identifier} :
    id ∈ l.waiting ↔ l.hand.taken? = some id ∨ id ∈ l.queue := by
  simp [Lane.waiting, Option.mem_toList]

theorem Hand.command?_cases {hand : Hand} {id : Identifier} (h : hand.command? = some id) :
    hand = .taken id ∨ hand.inDelivery? = some id := by
  cases hand <;> simp_all [Hand.command?, Hand.inDelivery?]

theorem Lane.waiting_sublist (l : Lane) : l.waiting.Sublist l.held := by
  refine List.Sublist.append_right ?_ l.queue
  cases l.hand <;> simp [Hand.taken?, Hand.command?]

theorem System.Moves.tracked {sent : List Message} (h : s.Moves settings p t sent)
    {id : Identifier} {e : Entry} (he : s.entryOf? id = some e) :
    ∃ e', t.entryOf? id = some e' ∧ e'.record.device = e.record.device := by
  cases h with
  | submitted ha hr hn =>
    refine ⟨e, ?_, rfl⟩
    rw [System.entryOf?_accept hn]
    split
    · rename_i hi
      simp [hi, hn] at he
    · exact he
  | unchanged => exact ⟨e, he, rfl⟩
  | cancelled he₀ ha =>
    obtain ⟨-, hid, hdev, -⟩ := Entry.apply_ok ha
    exact System.tracked_setEntry he₀ (hid.trans (System.id_of_entryOf? he₀)) hdev he
  | taken => exact ⟨e, he, rfl⟩
  | happened hl hc he₀ hm =>
    obtain ⟨hid, hdev, -⟩ := hm.keeps_entry
    exact System.tracked_setEntry he₀ (hid.trans (System.id_of_entryOf? he₀)) hdev he

theorem Run.tracked (h : Run settings p s labels messages t) {id : Identifier} {e : Entry}
    (he : s.entryOf? id = some e) :
    ∃ e', t.entryOf? id = some e' ∧ e'.record.device = e.record.device := by
  refine h.keeps
    (P := fun u _ ↦ ∃ e', u.entryOf? id = some e' ∧ e'.record.device = e.record.device)
    ⟨e, he, rfl⟩ ?_
  rintro u v before sent ⟨e₁, he₁, hd₁⟩ hm
  obtain ⟨e₂, he₂, hd₂⟩ := hm.tracked he₁
  exact ⟨e₂, he₂, hd₂.trans hd₁⟩

theorem System.entryOf?_of_submit {id : Identifier} {now : Instant} {submission : Submission}
    {record : Command.Record} (hn : (s.entryOf? id).isNone = true)
    (h : s.submit settings id now submission = .ok (t, record)) :
    t.entryOf? record.id = some (.new record) := by
  obtain ⟨order, -, rfl, rfl⟩ := System.submit_eq_ok h
  exact (System.entryOf?_accept (Option.isNone_iff_eq_none.mp hn) _).trans (if_pos rfl)

namespace Custody

theorem entryOf?_of_mem (h : Custody s) {e : Entry} (he : e ∈ s.entries) :
    s.entryOf? e.record.id = some e :=
  find?_key_of_mem (fun e : Entry ↦ e.record.id) h.ids he

theorem nodup_waiting (h : Custody s) : (s.lanes.flatMap Lane.waiting).Nodup := by
  refine List.nodup_flatMap.mpr ⟨?_, ?_⟩
  · intro l hl
    rw [← System.laneOf_of_mem h.devices hl]
    exact (h.distinct l.device).sublist (Lane.waiting_sublist _)
  · have hp : s.lanes.Pairwise fun l l' ↦ l.device ≠ l'.device := List.pairwise_map.mp h.devices
    refine hp.imp_of_mem fun {l l'} hl hl' hne ↦ ?_
    intro id hm hm'
    rw [← System.laneOf_of_mem h.devices hl] at hm
    rw [← System.laneOf_of_mem h.devices hl'] at hm'
    exact hne (h.device_unique ((Lane.waiting_sublist _).subset hm)
      ((Lane.waiting_sublist _).subset hm'))

theorem waiting_of_pending (h : Custody s) {e : Entry} (he : s.entryOf? e.record.id = some e)
    (hp : e.record.status = .pending) : e.record.id ∈ (s.laneOf e.record.device).waiting := by
  have hheld := (h.kept he).resolve_left (by simp [hp, Status.isTerminal])
  rw [Lane.mem_waiting]
  rcases List.mem_append.mp hheld with hc | hq
  · have hc := Option.mem_toList.mp hc
    rcases Hand.command?_cases hc with ht | hd
    · exact Or.inl (by rw [ht]; rfl)
    · have hs := h.inHand hc he
      cases hhand : (s.laneOf e.record.device).hand <;>
        simp_all [Hand.inDelivery?, Hand.Suits]
  · exact Or.inr hq

theorem inDelivery_of_executing (h : Custody s) {e : Entry}
    (he : s.entryOf? e.record.id = some e) (hx : e.record.status = .executing) :
    (s.laneOf e.record.device).hand.inDelivery? = some e.record.id := by
  have hheld := (h.kept he).resolve_left (by simp [hx, Status.isTerminal])
  rcases List.mem_append.mp hheld with hc | hq
  · have hc := Option.mem_toList.mp hc
    rcases Hand.command?_cases hc with ht | hd
    · have hs := h.inHand hc he
      simp [ht, Hand.Suits, hx] at hs
    · exact hd
  · have hs := h.queued hq he
    simp [hx] at hs

/-- A delivery that leaves its lane idle leaves its command over. -/
theorem over_of_happen (h : Custody s) {device : String} {happening : Happening}
    {request : Option Command.Request} {l l' : Lane} {id : Identifier}
    (hstep : s.happen? p device happening = some (t, request)) (hl : s.lane? device = some l)
    (hl' : t.lane? device = some l') (hc : l.hand.command? = some id) (hidle : l'.hand = .idle) :
    ∃ e, t.entryOf? id = some e ∧ e.record.status.isTerminal = true := by
  obtain ⟨l₀, id₀, e, step, hl₀, rfl, hc₀, he, hs, rfl, -⟩ := System.happen?_eq_some hstep
  obtain rfl : l₀ = l := Option.some.inj (hl₀.symm.trans hl)
  obtain rfl : id₀ = id := Option.some.inj (hc₀.symm.trans hc)
  have hm := Hand.moves_of_step hs
  have hhand : step.hand = .idle := by
    have hnew := System.laneOf_of_lane? hl'
    rw [System.laneOf_advance hl, if_pos rfl] at hnew
    rw [← hidle, ← hnew]
  refine ⟨step.entry, ?_, hm.over (h.inHand.of_lane? hl hc he) (h.signalled he) hhand⟩
  rw [System.entryOf?_advance he hm, if_pos rfl]

theorem over_of_idle (h : Custody s) (hidle : ∀ l ∈ s.lanes, l.isIdle = true) {id : Identifier}
    {e : Entry} (he : s.entryOf? id = some e) : e.record.status.isTerminal = true := by
  refine (h.kept he).resolve_right fun hm ↦ ?_
  have hl := hidle _ (System.mem_of_lane? (System.lane?_of_held hm))
  simp only [Lane.isIdle, Bool.and_eq_true, List.isEmpty_iff] at hl
  obtain ⟨hq, hh⟩ := hl
  rw [Lane.held, hq, List.append_nil, Option.mem_toList] at hm
  cases hhand : (s.laneOf e.record.device).hand <;> simp_all [Hand.command?]

end Custody

/-- In every reachable state a pending command waits once, in the lane of its device, and an executing
one is being delivered there. A delivery that ends leaves its command over, in whatever way it ends.
So when nothing is left to do on any lane, all commands that were ever accepted are over. -/
theorem no_command_lost (h : Run settings p .empty labels messages s) :
    (∀ e ∈ s.entries, e.record.status = .pending →
      (s.lanes.flatMap Lane.waiting).count e.record.id = 1 ∧
        ∃ l ∈ s.lanes, l.device = e.record.device ∧ e.record.id ∈ l.waiting) ∧
    (∀ e ∈ s.entries, e.record.status = .executing →
      ∃ l ∈ s.lanes, l.device = e.record.device ∧ l.hand.inDelivery? = some e.record.id) ∧
    (∀ (device : String) (happening : Happening) (t : System) request l l' id,
      s.happen? p device happening = some (t, request) → s.lane? device = some l →
        t.lane? device = some l' → l.hand.command? = some id → l'.hand = .idle →
          ∃ e, t.entryOf? id = some e ∧ e.record.status.isTerminal = true) ∧
    ((∀ l ∈ s.lanes, l.isIdle = true) →
      (∀ e ∈ s.entries, e.record.status.isTerminal = true) ∧
      ∀ (t u : System) id now submission record labels' messages', (t.entryOf? id).isNone = true →
        t.submit settings id now submission = .ok (u, record) →
          Run settings p u labels' messages' s →
            ∃ e, s.entryOf? record.id = some e ∧ e.record.device = record.device ∧
              e.record.status.isTerminal = true) := by
  have hs := h.custody
  refine ⟨?_, ?_, ?_, ?_⟩
  · intro e he hp
    have hw := hs.waiting_of_pending (hs.entryOf?_of_mem he) hp
    have hl := System.mem_of_lane?
      (System.lane?_of_held ((Lane.waiting_sublist _).subset hw))
    refine ⟨?_, _, hl, s.laneOf_device _, hw⟩
    exact List.count_eq_one_of_mem hs.nodup_waiting (List.mem_flatMap.mpr ⟨_, hl, hw⟩)
  · intro e he hx
    have hd := hs.inDelivery_of_executing (hs.entryOf?_of_mem he) hx
    have hc : (s.laneOf e.record.device).hand.command? = some e.record.id := by
      cases hhand : (s.laneOf e.record.device).hand <;>
        simp_all [Hand.inDelivery?, Hand.command?]
    exact ⟨_, System.mem_of_lane? (System.lane?_of_held (Lane.held_of_command? hc)),
      s.laneOf_device _, hd⟩
  · exact fun device happening t request l l' id hstep hl hl' hc hidle ↦
      hs.over_of_happen hstep hl hl' hc hidle
  · intro hidle
    refine ⟨fun e he ↦ hs.over_of_idle hidle (hs.entryOf?_of_mem he), ?_⟩
    intro t u id now submission record labels' messages' hn hsub hrun
    obtain ⟨e, he, hd⟩ := hrun.tracked (System.entryOf?_of_submit hn hsub)
    exact ⟨e, he, hd, hs.over_of_idle hidle he⟩

/-- Three commands for one device: the first is cancelled during its first attempt, the second is
answered at its second attempt, and the third is cancelled while it waits. -/
def threeCommands : List Label :=
  let photo : Submission := ⟨"drone-7", "capture_photo", [], none, false⟩
  [.submit ⟨1⟩ (.ofMillis 0) photo, .submit ⟨2⟩ (.ofMillis 1) photo,
    .take "drone-7", .happen "drone-7" (.dispatch (.ofMillis 2)), .happen "drone-7" .begin,
    .submit ⟨3⟩ (.ofMillis 3) photo,
    .cancel ⟨1⟩ (.ofMillis 4), .happen "drone-7" .interrupted,
    .take "drone-7", .happen "drone-7" (.dispatch (.ofMillis 5)), .happen "drone-7" .begin,
    .happen "drone-7" .late, .cancel ⟨3⟩ (.ofMillis 6),
    .happen "drone-7" .waited, .happen "drone-7" .begin,
    .happen "drone-7" (.answered (.value .null)), .happen "drone-7" (.settle (.ofMillis 7)),
    .take "drone-7", .happen "drone-7" (.dispatch (.ofMillis 8))]

theorem no_command_lost_three : ∃ messages s,
    Run .standard .standard .empty threeCommands messages s ∧ s.entries.length = 3 ∧
      ∀ e ∈ s.entries, e.record.status.isTerminal = true := by
  obtain ⟨⟨s, messages⟩, hs⟩ : ∃ result,
      System.empty.replay .standard .standard threeCommands = some result :=
    Option.isSome_iff_exists.mp (by decide)
  have hrun := run_of_replay hs
  have hidle : (System.empty.replay .standard .standard threeCommands).map
      (fun result ↦ (result.1.lanes.all Lane.isIdle, result.1.entries.length)) =
        some (true, 3) := by decide
  rw [hs, Option.map_some, Option.some.injEq, Prod.mk.injEq] at hidle
  exact ⟨messages, s, hrun, hidle.2,
    ((no_command_lost hrun).2.2.2 (List.all_eq_true.mp hidle.1)).1⟩

end FleetControl.Dispatch
