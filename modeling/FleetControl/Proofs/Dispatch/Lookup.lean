import FleetControl.Dispatch.Run
import Mathlib.Data.List.Nodup

namespace FleetControl.Dispatch

theorem Entry.apply_ok {e e' : Entry} {now : Instant} {event : Command.Event}
    (h : e.apply now event = .ok e') :
    e.record.status.next? event = some e'.record.status ∧ e'.record.id = e.record.id ∧
      e'.record.device = e.record.device ∧ e'.interrupted = e.interrupted := by
  cases hn : e.record.status.next? event with
  | none => simp [Entry.apply, Command.Record.apply, hn, Except.map] at h
  | some status =>
    simp only [Entry.apply, Command.Record.apply, hn, Except.map, Except.ok.injEq] at h
    subst h
    cases event <;> simp [Command.Record.note]

theorem Entry.apply_error {e : Entry} {now : Instant} {event : Command.Event}
    {bad : Command.InvalidTransition} (h : e.apply now event = .error bad) :
    e.record.status.next? event = none := by
  cases hn : e.record.status.next? event with
  | none => rfl
  | some status => simp [Entry.apply, Command.Record.apply, hn, Except.map] at h

@[simp] theorem Entry.recordAttempt_id (e : Entry) (n : ℕ) :
    (e.recordAttempt n).record.id = e.record.id := by
  unfold Entry.recordAttempt
  split <;> rfl

@[simp] theorem Entry.recordAttempt_device (e : Entry) (n : ℕ) :
    (e.recordAttempt n).record.device = e.record.device := by
  unfold Entry.recordAttempt
  split <;> rfl

@[simp] theorem Entry.recordAttempt_status (e : Entry) (n : ℕ) :
    (e.recordAttempt n).record.status = e.record.status := by
  unfold Entry.recordAttempt
  split <;> rfl

@[simp] theorem Entry.recordAttempt_interrupted (e : Entry) (n : ℕ) :
    (e.recordAttempt n).interrupted = e.interrupted := by
  unfold Entry.recordAttempt
  split <;> rfl

theorem find?_replace {α κ : Type} [DecidableEq κ] (key : α → κ) (k : κ) (a : α) (ha : key a = k)
    (rows : List α) (k' : κ) :
    (rows.map fun b ↦ if key b == k then a else b).find? (fun b ↦ key b == k') =
      if k' = k then (rows.find? fun b ↦ key b == k).map fun _ ↦ a
      else rows.find? fun b ↦ key b == k' := by
  induction rows with
  | nil => simp
  | cons b rows ih =>
    by_cases hb : key b = k
    · by_cases hk : k' = k
      · subst hk
        simp [hb, ha]
      · simpa [-List.find?_map, hb, ha, hk, Ne.symm hk] using ih
    · by_cases hk : k' = k
      · subst hk
        simpa [hb] using ih
      · by_cases hb' : key b = k'
        · simp [hb', hk]
        · simpa [hb, hb', hk] using ih

theorem find?_key_of_mem {α κ : Type} [DecidableEq κ] (key : α → κ) {rows : List α}
    (hd : (rows.map key).Nodup) {a : α} (ha : a ∈ rows) :
    rows.find? (fun b ↦ key b == key a) = some a := by
  induction rows with
  | nil => cases ha
  | cons b rows ih =>
    simp only [List.map_cons, List.nodup_cons, List.mem_map, not_exists, not_and] at hd
    rcases List.mem_cons.mp ha with rfl | ha
    · simp
    · have hne : key b ≠ key a := fun he ↦ hd.1 a ha he.symm
      simpa [hne] using ih hd.2 ha

theorem find?_filter_key {α κ : Type} [DecidableEq κ] (key : α → κ) {rows : List α}
    (hd : (rows.map key).Nodup) (keep : α → Bool) (k : κ) :
    (rows.filter keep).find? (fun a ↦ key a == k) =
      (rows.find? fun a ↦ key a == k).filter keep := by
  induction rows with
  | nil => rfl
  | cons b rows ih =>
    simp only [List.map_cons, List.nodup_cons, List.mem_map, not_exists, not_and] at hd
    have ih := ih hd.2
    by_cases hb : key b = k
    · have hrest : rows.find? (fun a ↦ key a == k) = none := by
        simpa using fun a ha he ↦ hd.1 a ha (he.trans hb.symm)
      cases hk : keep b with
      | true => simp [List.filter_cons_of_pos hk, hb, Option.filter, hk]
      | false => simp [-List.find?_filter, List.filter_cons_of_neg (Bool.eq_false_iff.mp hk), ih, hb,
          hrest, Option.filter, hk]
    · cases hk : keep b with
      | true => simpa [-List.find?_filter, hk, hb] using ih
      | false => simpa [-List.find?_filter, hk, hb] using ih

/-- Of a table with one of its rows replaced, some rows are left out; the new row is kept or left out
as the old one. -/
theorem filter_replace {α κ : Type} [DecidableEq κ] (key : α → κ) (k : κ) (a : α) (keep : α → Bool)
    {rows : List α} (h : ∀ b ∈ rows, key b = k → keep b = keep a) :
    (rows.map fun b ↦ if key b == k then a else b).filter keep =
      if keep a then (rows.filter keep).map fun b ↦ if key b == k then a else b
      else rows.filter keep := by
  induction rows with
  | nil => simp
  | cons b rows ih =>
    rw [List.forall_mem_cons] at h
    have ih := ih h.2
    by_cases hb : key b = k
    · have hkeep := h.1 hb
      cases hk : keep a with
      | true => simpa [hkeep, hk, hb] using ih
      | false => simpa [hkeep, hk, hb] using ih
    · cases hk : keep b with
      | true =>
        rw [List.map_cons, if_neg (by simpa using hb), List.filter_cons_of_pos hk, ih,
          List.filter_cons_of_pos hk]
        split <;> simp [hb]
      | false => simpa [hk, hb] using ih

@[simp] theorem Hand.idle_command? : Hand.idle.command? = none := rfl

@[simp] theorem Lane.push_queue (l : Lane) (id : Identifier) :
    (l.push id).queue = l.queue ++ [id] := rfl

theorem Lane.held_of_command? {l : Lane} {id : Identifier} (h : l.hand.command? = some id) :
    id ∈ l.held := by
  simp [Lane.held, h]

@[simp] theorem Lane.new_held (device : String) : (Lane.new device).held = [] := rfl

namespace System

variable {s : System} {id id' : Identifier} {e : Entry} {l : Lane} {device device' : String}

theorem id_of_entryOf? (h : s.entryOf? id = some e) : e.record.id = id := by
  simpa using List.find?_some h

theorem mem_of_entryOf? (h : s.entryOf? id = some e) : e ∈ s.entries :=
  List.mem_of_find?_eq_some h

theorem device_of_lane? (h : s.lane? device = some l) : l.device = device := by
  simpa using List.find?_some h

theorem mem_of_lane? (h : s.lane? device = some l) : l ∈ s.lanes :=
  List.mem_of_find?_eq_some h

theorem entryOf?_setEntry (he : e.record.id = id) (id' : Identifier) :
    (s.setEntry id e).entryOf? id' =
      if id' = id then (s.entryOf? id).map fun _ ↦ e else s.entryOf? id' :=
  find?_replace (fun b : Entry ↦ b.record.id) id e he s.entries id'

theorem lane?_setLane (device : String) :
    (s.setLane l).lane? device =
      if device = l.device then (s.lane? l.device).map fun _ ↦ l else s.lane? device :=
  find?_replace Lane.device l.device l rfl s.lanes device

theorem entryOf?_setEntry_of {e₀ : Entry} (h : s.entryOf? id = some e₀) (he : e.record.id = id)
    (id' : Identifier) :
    (s.setEntry id e).entryOf? id' = if id' = id then some e else s.entryOf? id' := by
  rw [entryOf?_setEntry he, h, Option.map_some]

theorem tracked_setEntry {e₀ e' : Entry} (h : s.entryOf? id = some e₀) (hid : e.record.id = id)
    (hdev : e.record.device = e₀.record.device) (he : s.entryOf? id' = some e') :
    ∃ e'', (s.setEntry id e).entryOf? id' = some e'' ∧ e''.record.device = e'.record.device := by
  rw [entryOf?_setEntry_of h hid]
  split
  · rename_i hi
    subst hi
    obtain rfl : e₀ = e' := Option.some.inj (h.symm.trans he)
    exact ⟨e, rfl, hdev⟩
  · exact ⟨e', he, rfl⟩

theorem ids_setEntry (he : e.record.id = id) :
    ((s.setEntry id e).entries.map fun e ↦ e.record.id) = s.entries.map fun e ↦ e.record.id := by
  simp only [setEntry, List.map_map]
  refine List.map_congr_left fun b _ ↦ ?_
  by_cases hb : b.record.id = id <;> simp [hb, he]

theorem devices_setLane : (s.setLane l).lanes.map Lane.device = s.lanes.map Lane.device := by
  simp only [setLane, List.map_map]
  refine List.map_congr_left fun b _ ↦ ?_
  by_cases hb : b.device = l.device <;> simp [hb]

theorem devices_enqueue (h : (s.lanes.map Lane.device).Nodup) :
    ((s.enqueue device id).lanes.map Lane.device).Nodup := by
  unfold enqueue
  cases hl : s.lane? device with
  | some l => simpa only [devices_setLane] using h
  | none =>
    simp only [lane?, List.find?_eq_none, beq_iff_eq] at hl
    simp only [List.map_append, List.map_cons, List.map_nil, List.nodup_append]
    refine ⟨h, List.nodup_singleton _, ?_⟩
    intro d hd d' hd' he
    obtain ⟨l, hm, rfl⟩ := List.mem_map.mp hd
    exact hl l hm (by simpa [Lane.push, Lane.new] using he.trans (List.mem_singleton.mp hd'))

@[simp] theorem entries_enqueue : (s.enqueue device id).entries = s.entries := by
  unfold enqueue
  split <;> rfl

@[simp] theorem entryOf?_enqueue (id' : Identifier) :
    (s.enqueue device id).entryOf? id' = s.entryOf? id' := by
  unfold enqueue
  split <;> rfl

theorem laneOf_device (s : System) (device : String) : (s.laneOf device).device = device := by
  unfold laneOf
  cases h : s.lane? device with
  | none => rfl
  | some l => exact device_of_lane? h

theorem laneOf_of_lane? (h : s.lane? device = some l) : s.laneOf device = l := by
  simp [laneOf, h]

theorem lane?_of_held (h : id ∈ (s.laneOf device).held) :
    s.lane? device = some (s.laneOf device) := by
  unfold laneOf at h ⊢
  cases hl : s.lane? device with
  | none => simp [hl] at h
  | some l => rfl

theorem laneOf_of_mem (hd : (s.lanes.map Lane.device).Nodup) (h : l ∈ s.lanes) :
    s.laneOf l.device = l :=
  laneOf_of_lane? (find?_key_of_mem Lane.device hd h)

theorem laneOf_setLane {l₀ : Lane} (h : s.lane? l.device = some l₀) (device : String) :
    (s.setLane l).laneOf device = if device = l.device then l else s.laneOf device := by
  unfold laneOf
  rw [lane?_setLane, h]
  split <;> rfl

theorem laneOf_enqueue (device' : String) :
    (s.enqueue device id).laneOf device' =
      if device' = device then (s.laneOf device).push id else s.laneOf device' := by
  unfold enqueue
  cases h : s.lane? device with
  | some l =>
    have hl := device_of_lane? h
    have hpush : s.lane? (l.push id).device = some l := by simpa [Lane.push, hl] using h
    dsimp only
    rw [laneOf_setLane hpush, laneOf_of_lane? h]
    simp [Lane.push, hl]
  | none =>
    simp only [laneOf, lane?, List.find?_append] at h ⊢
    by_cases hd : device' = device
    · subst hd
      simp [h, Lane.new, Lane.push]
    · simp [hd, Lane.new, Lane.push, Ne.symm hd]

theorem entryOf?_append (he : e.record.id = id) (hn : s.entryOf? id = none) (id' : Identifier) :
    ({ s with entries := s.entries ++ [e] } : System).entryOf? id' =
      if id' = id then some e else s.entryOf? id' := by
  simp only [entryOf?, List.find?_append] at hn ⊢
  by_cases hi : id' = id
  · subst hi
    simp [hn, he]
  · simp [hi, he, Ne.symm hi]

end System

end FleetControl.Dispatch
