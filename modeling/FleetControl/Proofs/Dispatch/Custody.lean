import FleetControl.Proofs.Dispatch.Transition

namespace FleetControl.Dispatch

open Command (Status Event)

def EndsDelivery (event : Event) : Prop := ∃ r, outcome r = some event

theorem status_of_ends {status status' : Status} {event : Event} (h : EndsDelivery event)
    (hn : status.next? event = some status') :
    status = .executing ∧ (status' = .completed ∨ status' = .failed) := by
  obtain ⟨r, hr⟩ := h
  cases event with
  | dispatch => rcases r with ⟨_ | _ | _ | _⟩ | _ <;> simp [outcome] at hr
  | cancel => rcases r with ⟨_ | _ | _ | _⟩ | _ <;> simp [outcome] at hr
  | complete result => cases status <;> simp_all [Status.next?]
  | fail failure => cases status <;> simp_all [Status.next?]

theorem next?_of_ends {event : Event} (h : EndsDelivery event) :
    Status.next? .executing event ≠ none := by
  obtain ⟨r, hr⟩ := h
  cases event with
  | dispatch => rcases r with ⟨_ | _ | _ | _⟩ | _ <;> simp [outcome] at hr
  | cancel => rcases r with ⟨_ | _ | _ | _⟩ | _ <;> simp [outcome] at hr
  | complete result => simp [Status.next?]
  | fail failure => simp [Status.next?]

theorem status_of_dispatch {status status' : Status}
    (h : status.next? .dispatch = some status') : status = .pending ∧ status' = .executing := by
  cases status <;> simp_all [Status.next?]

theorem status_of_cancel {status status' : Status} (h : status.next? .cancel = some status') :
    status' = .cancelled := by
  cases status <;> simp_all [Status.next?]

/-- Whether the command in hand may be where it is, by its status. -/
def Hand.Suits : Hand → Entry → Prop
  | .idle, _ => True
  | .taken _, e => e.record.status = .pending ∨ e.record.status = .cancelled
  | .delivering _ _, e => e.record.status = .executing ∨ e.record.status = .cancelled
  | .settled _ event, e =>
    EndsDelivery event ∧ (e.record.status = .executing ∨ e.record.status = .cancelled)

def Entry.Signalled (e : Entry) : Prop :=
  e.interrupted = true ↔ e.record.status = .cancelled

theorem Hand.Suits.cancelled {hand : Hand} {e e' : Entry} (h : hand.Suits e)
    (hc : e'.record.status = .cancelled) : hand.Suits e' := by
  cases hand with
  | idle => trivial
  | taken id => exact Or.inr hc
  | delivering id stage => exact Or.inr hc
  | settled id event => exact ⟨h.1, Or.inr hc⟩

theorem Hand.Moves.suits {p : Retry.Policy} {e : Entry} {hand : Hand} {step : Step}
    (h : hand.Moves p e step) (hs : hand.Suits e) : step.hand.Suits step.entry := by
  cases h with
  | dispatched ha => exact Or.inl (status_of_dispatch (Entry.apply_ok ha).1).2
  | begun => simpa [Hand.Suits] using hs
  | ended _ _ ho => exact ⟨⟨_, ho⟩, hs⟩
  | failed => exact hs
  | waited => exact hs
  | _ => trivial

theorem Hand.Moves.signalled {p : Retry.Policy} {e : Entry} {hand : Hand} {step : Step}
    (h : hand.Moves p e step) (hs : hand.Suits e) (hc : e.Signalled) : step.entry.Signalled := by
  unfold Entry.Signalled at hc ⊢
  rw [h.keeps_entry.2.2, hc]
  cases h with
  | dispatched ha =>
    obtain ⟨hp, he⟩ := status_of_dispatch (Entry.apply_ok ha).1
    simp [hp, he]
  | noted ha =>
    obtain ⟨he, hf | hf⟩ := status_of_ends hs.1 (Entry.apply_ok ha).1 <;> simp [he, hf]
  | begun => simp
  | _ => exact Iff.rfl

theorem Hand.Moves.over {p : Retry.Policy} {e : Entry} {hand : Hand} {step : Step}
    (h : hand.Moves p e step) (hs : hand.Suits e) (hc : e.Signalled) (hi : step.hand = .idle) :
    step.entry.record.status.isTerminal = true := by
  cases h with
  | skipped ha =>
    rcases hs with hs | hs
    · have hn := Entry.apply_error ha
      simp [hs, Status.next?] at hn
    · simp [hs, Status.isTerminal]
  | withdrawn ht => simp [hc.mp ht, Status.isTerminal]
  | noted ha =>
    obtain ⟨-, hf | hf⟩ := status_of_ends hs.1 (Entry.apply_ok ha).1 <;>
      simp [hf, Status.isTerminal]
  | discarded ha =>
    rcases hs with ⟨ho, hs | hs⟩
    · exact absurd (hs ▸ Entry.apply_error ha) (next?_of_ends ho)
    · simp [hs, Status.isTerminal]
  | _ => simp at hi

def System.InHand (s : System) (Q : Hand → Entry → Prop) : Prop :=
  ∀ ⦃device : String⦄ ⦃id : Identifier⦄ ⦃e : Entry⦄, (s.laneOf device).hand.command? = some id →
    s.entryOf? id = some e → Q (s.laneOf device).hand e

theorem System.inHand_empty {Q : Hand → Entry → Prop} : System.empty.InHand Q := by
  intro device id e hc
  cases hc

/-- Every command that is not over is with the lane of its device. This couples the table of commands,
the queues, what is in hand, and the signals of cancellation. -/
structure Custody (s : System) : Prop where
  ids : (s.entries.map fun e ↦ e.record.id).Nodup
  devices : (s.lanes.map Lane.device).Nodup
  distinct (device : String) : (s.laneOf device).held.Nodup
  owned {device : String} {id : Identifier} : id ∈ (s.laneOf device).held →
    ∃ e, s.entryOf? id = some e ∧ e.record.device = device
  queued {device : String} {id : Identifier} {e : Entry} : id ∈ (s.laneOf device).queue →
    s.entryOf? id = some e → e.record.status = .pending ∨ e.record.status = .cancelled
  inHand : s.InHand Hand.Suits
  signalled {id : Identifier} {e : Entry} : s.entryOf? id = some e → e.Signalled
  kept {id : Identifier} {e : Entry} : s.entryOf? id = some e →
    e.record.status.isTerminal = true ∨ id ∈ (s.laneOf e.record.device).held

theorem custody_empty : Custody .empty where
  ids := List.nodup_nil
  devices := List.nodup_nil
  distinct _ := List.nodup_nil
  owned h := by cases h
  queued h := by cases h
  inHand := System.inHand_empty
  signalled h := by cases h
  kept h := by cases h

variable {settings : Settings} {p : Retry.Policy} {s t : System}

namespace Custody

theorem fresh (h : Custody s) {id : Identifier} (hn : s.entryOf? id = none) (device : String) :
    id ∉ (s.laneOf device).held := by
  intro hm
  obtain ⟨e, he, -⟩ := h.owned hm
  simp [hn] at he

theorem entryOf?_accept_of_held (h : Custody s) {record : Command.Record}
    (hn : s.entryOf? record.id = none) {id : Identifier} {device : String}
    (hm : id ∈ (s.laneOf device).held) : (s.accept record).entryOf? id = s.entryOf? id := by
  have hi : id ≠ record.id := by
    rintro rfl
    exact h.fresh hn device hm
  rw [System.entryOf?_accept hn, if_neg hi]

theorem device_unique (h : Custody s) {id : Identifier} {device device' : String}
    (hm : id ∈ (s.laneOf device).held) (hm' : id ∈ (s.laneOf device').held) :
    device = device' := by
  obtain ⟨e, he, hd⟩ := h.owned hm
  obtain ⟨e', he', hd'⟩ := h.owned hm'
  have hee : e = e' := Option.some.inj (he.symm.trans he')
  exact hd.symm.trans (hee ▸ hd')

theorem device_of_held (h : Custody s) {id : Identifier} {e : Entry} {device : String}
    (he : s.entryOf? id = some e) (hm : id ∈ (s.laneOf device).held) : e.record.device = device := by
  obtain ⟨e', he', hd⟩ := h.owned hm
  obtain rfl : e = e' := Option.some.inj (he.symm.trans he')
  exact hd

theorem not_queued (h : Custody s) {id : Identifier} {device device' : String}
    (hc : (s.laneOf device).hand.command? = some id) : id ∉ (s.laneOf device').queue := by
  intro hq
  have hd := h.device_unique (Lane.held_of_command? hc) (List.mem_append_right _ hq)
  subst hd
  have hn := h.distinct device
  simp only [Lane.held, hc, Option.toList_some, List.singleton_append, List.nodup_cons] at hn
  exact hn.1 hq

end Custody

namespace System.InHand

variable {Q : Hand → Entry → Prop} {id : Identifier}

theorem of_lane? (h : s.InHand Q) {l : Lane} {e : Entry} (hl : s.lane? l.device = some l)
    (hc : l.hand.command? = some id) (he : s.entryOf? id = some e) : Q l.hand e := by
  have hlane := laneOf_of_lane? hl
  rw [← hlane] at hc ⊢
  exact h hc he

theorem accept (h : s.InHand Q) (hs : Custody s) {record : Command.Record}
    (hn : s.entryOf? record.id = none) : (s.accept record).InHand Q := by
  intro device id e hc he
  rw [hand_accept] at hc ⊢
  rw [hs.entryOf?_accept_of_held hn (Lane.held_of_command? hc)] at he
  exact h hc he

theorem cancel (h : s.InHand Q) {e e' : Entry} (he : s.entryOf? id = some e)
    (hid : e'.record.id = e.record.id) (hQ : ∀ hand, Q hand e → Q hand e') :
    (s.setEntry id e').InHand Q := by
  intro device id' e₀ hc he₀
  rw [entryOf?_setEntry_of he (hid.trans (id_of_entryOf? he))] at he₀
  split at he₀
  · rename_i hi
    subst hi
    exact Option.some.inj he₀ ▸ hQ _ (h hc he)
  · exact h hc he₀

theorem start (h : s.InHand Q) {l : Lane} {rest : List Identifier}
    (hl : s.lane? l.device = some l) (hQ : ∀ e, s.entryOf? id = some e → Q (.taken id) e) :
    (s.start l id rest).InHand Q := by
  intro device id' e hc he
  rw [laneOf_start hl] at hc ⊢
  split
  · rename_i hd
    rw [if_pos hd] at hc
    obtain rfl : id = id' := Option.some.inj hc
    exact hQ e he
  · rename_i hd
    rw [if_neg hd] at hc
    exact h hc he

theorem advance (h : s.InHand Q) (hs : Custody s) {l : Lane} {e : Entry} {step : Step}
    (hl : s.lane? l.device = some l) (hc : l.hand.command? = some id)
    (he : s.entryOf? id = some e) (hm : l.hand.Moves p e step) (hQ : Q step.hand step.entry) :
    (s.advance l id step).InHand Q := by
  have hin : (s.laneOf l.device).hand.command? = some id := by rw [laneOf_of_lane? hl, hc]
  intro device id' e₀ hh he₀
  rw [laneOf_advance hl] at hh ⊢
  split
  · rename_i hd
    rw [if_pos hd] at hh
    have hi : id' = id := by
      rcases hm.command? hc with hidle | hsame
      · rw [hidle] at hh
        cases hh
      · exact Option.some.inj (hh.symm.trans hsame)
    rw [entryOf?_advance he hm, if_pos hi, Option.some.injEq] at he₀
    exact he₀ ▸ hQ
  · rename_i hd
    rw [if_neg hd] at hh
    have hi : id' ≠ id := by
      rintro rfl
      exact hd (hs.device_unique (Lane.held_of_command? hh) (Lane.held_of_command? hin))
    rw [entryOf?_advance he hm, if_neg hi] at he₀
    exact h hh he₀

end System.InHand

namespace Custody

theorem accept (h : Custody s) {record : Command.Record} (hp : record.status = .pending)
    (hn : s.entryOf? record.id = none) : Custody (s.accept record) := by
  constructor
  case ids =>
    have hfresh : ∀ e ∈ s.entries, e.record.id ≠ record.id := by
      simpa [System.entryOf?] using hn
    simp only [System.accept, System.entries_enqueue, List.map_append, List.map_cons, List.map_nil]
    refine List.nodup_append.mpr ⟨h.ids, List.nodup_singleton _, ?_⟩
    intro i hi j hj hij
    obtain ⟨e, he, rfl⟩ := List.mem_map.mp hi
    exact hfresh e he (hij.trans (List.mem_singleton.mp hj))
  case devices => exact System.devices_enqueue h.devices
  case distinct =>
    intro device
    rw [System.held_accept]
    refine List.nodup_append.mpr ⟨h.distinct device, ?_, ?_⟩
    · split <;> simp
    · rintro i hi j hj rfl
      split at hj
      · exact h.fresh hn device (List.mem_singleton.mp hj ▸ hi)
      · cases hj
  case owned =>
    intro device id hm
    rw [System.held_accept, List.mem_append] at hm
    rcases hm with hm | hm
    · rw [h.entryOf?_accept_of_held hn hm]
      exact h.owned hm
    · split at hm
      · rename_i hd
        rw [List.mem_singleton.mp hm, System.entryOf?_accept hn, if_pos rfl]
        exact ⟨_, rfl, hd.symm⟩
      · cases hm
  case queued =>
    intro device id e hq he
    rw [System.queue_accept, List.mem_append] at hq
    rcases hq with hq | hq
    · rw [h.entryOf?_accept_of_held hn (List.mem_append_right _ hq)] at he
      exact h.queued hq he
    · split at hq
      · rw [List.mem_singleton.mp hq, System.entryOf?_accept hn, if_pos rfl] at he
        exact Or.inl (Option.some.inj he ▸ hp)
      · cases hq
  case inHand => exact h.inHand.accept h hn
  case signalled =>
    intro id e he
    rw [System.entryOf?_accept hn] at he
    split at he
    · simp [← Option.some.inj he, Entry.Signalled, Entry.new, hp]
    · exact h.signalled he
  case kept =>
    intro id e he
    rw [System.held_accept, List.mem_append]
    rw [System.entryOf?_accept hn] at he
    split at he
    · rename_i hi
      right
      right
      rw [← Option.some.inj he, if_pos (by rfl), hi]
      exact List.mem_singleton_self _
    · exact (h.kept he).imp_right Or.inl

theorem cancel (h : Custody s) {id : Identifier} {e e' : Entry} {now : Instant}
    (he : s.entryOf? id = some e) (ha : e.apply now .cancel = .ok e') :
    Custody (s.setEntry id e'.interrupt) := by
  obtain ⟨hs, hid, hdev, -⟩ := Entry.apply_ok ha
  have hc : e'.record.status = .cancelled := status_of_cancel hs
  have hid' : e'.interrupt.record.id = id := hid.trans (System.id_of_entryOf? he)
  have hentry := System.entryOf?_setEntry_of he hid'
  constructor
  case ids => exact (System.ids_setEntry hid').symm ▸ h.ids
  case devices => exact h.devices
  case distinct => exact h.distinct
  case owned =>
    intro device id' hm
    obtain ⟨e₀, he₀, hd⟩ := h.owned hm
    rw [hentry]
    split
    · rename_i hi
      subst hi
      have hee : e = e₀ := Option.some.inj (he.symm.trans he₀)
      exact ⟨_, rfl, hdev.trans (hee ▸ hd)⟩
    · exact ⟨e₀, he₀, hd⟩
  case queued =>
    intro device id' e₀ hq he₀
    rw [hentry] at he₀
    split at he₀
    · exact Or.inr (Option.some.inj he₀ ▸ hc)
    · exact h.queued hq he₀
  case inHand => exact h.inHand.cancel he hid fun hand hs ↦ hs.cancelled hc
  case signalled =>
    intro id' e₀ he₀
    rw [hentry] at he₀
    split at he₀
    · simp [← Option.some.inj he₀, Entry.Signalled, Entry.interrupt, hc]
    · exact h.signalled he₀
  case kept =>
    intro id' e₀ he₀
    rw [hentry] at he₀
    split at he₀
    · left
      simp [← Option.some.inj he₀, Entry.interrupt, hc, Status.isTerminal]
    · exact h.kept he₀

theorem start (h : Custody s) {l : Lane} {id : Identifier} {rest : List Identifier}
    (hl : s.lane? l.device = some l) (hh : l.hand = .idle) (hq : l.queue = id :: rest) :
    Custody (s.start l id rest) := by
  have hheld := System.held_start hl hh hq
  have hfirst : ∀ {id'}, id' ∈ id :: rest → id' ∈ (s.laneOf l.device).queue := by
    intro id' hm
    rw [System.laneOf_of_lane? hl, hq]
    exact hm
  constructor
  case ids => exact h.ids
  case devices => exact System.devices_setLane.symm ▸ h.devices
  case distinct => exact fun device ↦ (hheld device).symm ▸ h.distinct device
  case owned => exact fun hm ↦ h.owned (hheld _ ▸ hm)
  case queued =>
    intro device id' e hm he
    rw [System.laneOf_start hl] at hm
    split at hm
    · exact h.queued (hfirst (List.mem_cons_of_mem _ hm)) he
    · exact h.queued hm he
  case inHand => exact h.inHand.start hl fun e he ↦ h.queued (hfirst List.mem_cons_self) he
  case signalled => exact h.signalled
  case kept => exact fun he ↦ (h.kept he).imp_right fun hm ↦ (hheld _).symm ▸ hm

section Advance

variable {l : Lane} {id : Identifier} {e : Entry} {step : Step}

theorem device_of_command? (h : Custody s) (hl : s.lane? l.device = some l)
    (hc : l.hand.command? = some id) (he : s.entryOf? id = some e) :
    e.record.device = l.device := by
  have hlane := System.laneOf_of_lane? hl
  exact h.device_of_held he (Lane.held_of_command? (hlane.symm ▸ hc))

theorem owned_advance (h : Custody s) (hl : s.lane? l.device = some l)
    (hc : l.hand.command? = some id) (he : s.entryOf? id = some e) (hm : l.hand.Moves p e step)
    {device : String} {id' : Identifier}
    (hheld : id' ∈ ((s.advance l id step).laneOf device).held) :
    ∃ e', (s.advance l id step).entryOf? id' = some e' ∧ e'.record.device = device := by
  obtain ⟨e₀, he₀, hd⟩ := h.owned ((System.held_advance_sublist hl hc hm device).subset hheld)
  rw [System.entryOf?_advance he hm]
  split
  · rename_i hi
    subst hi
    obtain rfl : e = e₀ := Option.some.inj (he.symm.trans he₀)
    exact ⟨_, rfl, hm.keeps_entry.2.1.trans hd⟩
  · exact ⟨e₀, he₀, hd⟩

theorem queued_advance (h : Custody s) (hl : s.lane? l.device = some l)
    (hc : l.hand.command? = some id) (he : s.entryOf? id = some e) (hm : l.hand.Moves p e step)
    {device : String} {id' : Identifier} {e' : Entry}
    (hq : id' ∈ ((s.advance l id step).laneOf device).queue)
    (he' : (s.advance l id step).entryOf? id' = some e') :
    e'.record.status = .pending ∨ e'.record.status = .cancelled := by
  rw [System.queue_advance hl] at hq
  have hin : (s.laneOf l.device).hand.command? = some id := by
    rw [System.laneOf_of_lane? hl, hc]
  have hi : id' ≠ id := by
    rintro rfl
    exact h.not_queued hin hq
  rw [System.entryOf?_advance he hm, if_neg hi] at he'
  exact h.queued hq he'

theorem signalled_advance (h : Custody s) (hl : s.lane? l.device = some l)
    (hc : l.hand.command? = some id) (he : s.entryOf? id = some e) (hm : l.hand.Moves p e step)
    {id' : Identifier} {e' : Entry} (he' : (s.advance l id step).entryOf? id' = some e') :
    e'.Signalled := by
  rw [System.entryOf?_advance he hm] at he'
  split at he'
  · exact Option.some.inj he' ▸ hm.signalled (h.inHand.of_lane? hl hc he) (h.signalled he)
  · exact h.signalled he'

theorem kept_advance (h : Custody s) (hl : s.lane? l.device = some l)
    (hc : l.hand.command? = some id) (he : s.entryOf? id = some e) (hm : l.hand.Moves p e step)
    {id' : Identifier} {e' : Entry} (he' : (s.advance l id step).entryOf? id' = some e') :
    e'.record.status.isTerminal = true ∨
      id' ∈ ((s.advance l id step).laneOf e'.record.device).held := by
  rw [System.entryOf?_advance he hm] at he'
  split at he'
  · rename_i hi
    obtain rfl : step.entry = e' := Option.some.inj he'
    rcases hm.command? hc with hidle | hsame
    · exact Or.inl (hm.over (h.inHand.of_lane? hl hc he) (h.signalled he) hidle)
    · right
      rw [hm.keeps_entry.2.1, h.device_of_command? hl hc he, System.laneOf_advance hl,
        if_pos rfl, hi]
      exact Lane.held_of_command? hsame
  · rename_i hi
    refine (h.kept he').imp_right fun hk ↦ ?_
    rcases System.held_advance hl hc hm e'.record.device with hd | hd
    · exact hd ▸ hk
    · rw [hd, List.mem_cons] at hk
      exact hk.resolve_left hi

theorem advance (h : Custody s) (hl : s.lane? l.device = some l)
    (hc : l.hand.command? = some id) (he : s.entryOf? id = some e) (hm : l.hand.Moves p e step) :
    Custody (s.advance l id step) where
  ids := (System.ids_setEntry (hm.keeps_entry.1.trans (System.id_of_entryOf? he))).symm ▸ h.ids
  devices := System.devices_setLane.symm ▸ h.devices
  distinct device := (h.distinct device).sublist (System.held_advance_sublist hl hc hm device)
  owned := h.owned_advance hl hc he hm
  queued := h.queued_advance hl hc he hm
  inHand := h.inHand.advance h hl hc he hm (hm.suits (h.inHand.of_lane? hl hc he))
  signalled := h.signalled_advance hl hc he hm
  kept := h.kept_advance hl hc he hm

end Advance

theorem moves (h : Custody s) {sent : List Message} (hm : s.Moves settings p t sent) :
    Custody t := by
  cases hm with
  | @submitted id now submission order record ha hr hn =>
    subst hr
    exact h.accept rfl hn
  | unchanged => exact h
  | cancelled he ha => exact h.cancel he ha
  | taken hl hh hq => exact h.start hl hh hq
  | happened hl hc he hm => exact h.advance hl hc he hm

end Custody

theorem Run.custody {labels : List Label} {messages : List Message}
    (h : Run settings p .empty labels messages s) : Custody s :=
  h.keeps (P := fun t _ ↦ Custody t) custody_empty fun _ _ _ _ ht hm ↦ ht.moves hm

end FleetControl.Dispatch
