import FleetControl.Dispatch.Shared
import FleetControl.Proofs.Dispatch.Single
import FleetControl.Proofs.Dispatch.Withdrawal
import Mathlib.Logic.Relation

namespace FleetControl.Dispatch

open Command (Status Event Record)
open Relation (ReflTransGen)

variable {settings : Settings} {p : Retry.Policy} {s t u : System} {labels : List Label}
  {messages sent : List Message} {id : Identifier} {e e' : Entry} {now : Instant} {event : Event}

theorem Entry.apply_published (h : e.apply now event = .ok e') :
    e'.published = e'.record.status := by
  cases hn : e.record.status.next? event with
  | none => simp [Entry.apply_of_not_next? hn] at h
  | some status =>
    simp only [Entry.apply, Record.apply, hn, Except.map, Except.ok.injEq] at h
    simp [← h]

@[simp] theorem Entry.recordAttempt_published (e : Entry) (n : ℕ) :
    (e.recordAttempt n).published = e.published := by
  unfold Entry.recordAttempt
  split <;> rfl

theorem Entry.recordAttempt_of_isTerminal (h : e.record.status.isTerminal = true) (n : ℕ) :
    e.recordAttempt n = e := by
  refine if_neg fun hx ↦ ?_
  simp [hx, Status.isTerminal] at h

namespace Shared

variable {a b : Shared}

/-- The status told is that of the record, and only a cancelled command has, or is about to have, its
signal raised. -/
structure Coherent (a : Shared) : Prop where
  told : a.entry.published = a.entry.record.status
  signalled : a.entry.interrupted = true → a.entry.record.status = .cancelled
  signalling : 0 < a.unsignalled → a.entry.record.status = .cancelled

theorem coherent_new (r : Record) : (new r).Coherent where
  told := rfl
  signalled h := by cases h
  signalling h := absurd h (Nat.lt_irrefl 0)

theorem not_apply_of_cancelled (h : a.entry.record.status = .cancelled) :
    a.entry.apply now event ≠ .ok e :=
  Entry.not_apply_of_isTerminal (by simp [h, Status.isTerminal])

theorem Coherent.writes (h : a.Coherent) (hw : a.Writes b) : b.Coherent := by
  cases hw with
  | event _ ha =>
    obtain ⟨-, -, -, hi⟩ := Entry.apply_ok ha
    refine ⟨Entry.apply_published ha, ?_, ?_⟩
    · intro hs
      exact absurd ha (not_apply_of_cancelled (h.signalled (hi ▸ hs)))
    · intro hs
      exact absurd ha (not_apply_of_cancelled (h.signalling hs))
  | attempt n =>
    refine ⟨?_, ?_, ?_⟩
    · simpa using h.told
    · simpa using h.signalled
    · simpa using h.signalling
  | cancel ha =>
    have hc := status_of_cancel (Entry.apply_ok ha).1
    exact ⟨Entry.apply_published ha, fun _ ↦ hc, fun _ ↦ hc⟩
  | @signal e n =>
    -- the signal is raised by one whose cancellation was applied before
    have hc : e.record.status = .cancelled := h.signalling (Nat.succ_pos n)
    exact ⟨h.told, fun _ ↦ hc, fun _ ↦ hc⟩
  | refused => exact h

theorem Coherent.reaches (h : a.Coherent) (hw : ReflTransGen Writes a b) : b.Coherent := by
  induction hw with
  | refl => exact h
  | tail _ hw ih => exact ih.writes hw

theorem Writes.keeps (hw : a.Writes b) (ht : a.entry.record.status.isTerminal = true) :
    b.entry.record = a.entry.record ∧ b.entry.published = a.entry.published := by
  cases hw with
  | event _ ha => exact absurd ha (Entry.not_apply_of_isTerminal ht)
  | attempt n => simp [Entry.recordAttempt_of_isTerminal ht]
  | cancel ha => exact absurd ha (Entry.not_apply_of_isTerminal ht)
  | signal => exact ⟨rfl, rfl⟩
  | refused => exact ⟨rfl, rfl⟩

theorem keeps_of_isTerminal (hw : ReflTransGen Writes a b)
    (ht : a.entry.record.status.isTerminal = true) :
    b.entry.record = a.entry.record ∧ b.entry.published = a.entry.published := by
  induction hw with
  | refl => exact ⟨rfl, rfl⟩
  | @tail b c _ hw ih =>
    obtain ⟨hr, hp⟩ := ih
    obtain ⟨hr', hp'⟩ := hw.keeps (hr ▸ ht)
    exact ⟨hr'.trans hr, hp'.trans hp⟩

end Shared

open Shared (Writes)

theorem EndsDelivery.ne_cancel (h : EndsDelivery event) : event ≠ .cancel := by
  rintro rfl
  obtain ⟨r, hr⟩ := h
  rcases r with ⟨_ | _ | _ | _⟩ | _ <;> simp [outcome] at hr

theorem Hand.Moves.writes {hand : Hand} {step : Step} (h : hand.Moves p e step)
    (hs : hand.Suits e) (n : ℕ) : ReflTransGen Writes ⟨e, n⟩ ⟨step.entry, n⟩ := by
  cases h with
  | dispatched ha => exact .single (.event (by simp) ha)
  | skipped ha => exact .single (.refused ha)
  | begun => exact .single (.attempt _)
  | noted ha => exact .single (.event hs.1.ne_cancel ha)
  | discarded ha => exact .single (.refused ha)
  | _ => exact .refl

theorem Custody.writes (hs : Custody s) (h : s.Moves settings p t sent)
    (he : s.entryOf? id = some e) :
    ∃ e', t.entryOf? id = some e' ∧ ReflTransGen Writes ⟨e, 0⟩ ⟨e', 0⟩ := by
  cases h.touches id with
  | spared ht => exact ⟨e, ht.trans he, .refl⟩
  | created hn => simp [hn] at he
  | @withdrawn e₀ e' now he₀ ha ht =>
    obtain rfl : e₀ = e := Option.some.inj (he₀.symm.trans he)
    have hcancel : Writes ⟨e₀, 0⟩ ⟨e', 1⟩ := .cancel ha
    exact ⟨_, ht, (ReflTransGen.single hcancel).tail .signal⟩
  | @advanced l e₀ step hl hc he₀ hm ht =>
    obtain rfl : e₀ = e := Option.some.inj (he₀.symm.trans he)
    exact ⟨_, ht, hm.writes (hs.inHand.of_lane? hl hc he) 0⟩

theorem System.Moves.entryOf?_of_none (h : s.Moves settings p t sent)
    (hn : s.entryOf? id = none) (he : t.entryOf? id = some e) :
    ∃ r : Record, r.status = .pending ∧ e = .new r := by
  cases h.touches id with
  | spared ht => simp [ht, hn] at he
  | created _ ht => exact ⟨_, rfl, Option.some.inj (he.symm.trans ht)⟩
  | withdrawn he₀ => simp [hn] at he₀
  | advanced _ _ he₀ => simp [hn] at he₀

/-- Every entry has come to be what it is by writes to a pending record. -/
theorem Run.writes (h : Run settings p .empty labels messages s) (he : s.entryOf? id = some e) :
    ∃ r : Record, r.status = .pending ∧ ReflTransGen Writes (.new r) ⟨e, 0⟩ := by
  have hall := h.keeps (P := fun t _ ↦ Custody t ∧ ∀ id e, t.entryOf? id = some e →
    ∃ r : Record, r.status = .pending ∧ ReflTransGen Writes (.new r) ⟨e, 0⟩)
    ⟨custody_empty, fun _ _ he ↦ by cases he⟩ ?_
  · exact hall.2 id e he
  · rintro t u before sent ⟨hc, ht⟩ hm
    refine ⟨hc.moves hm, fun id e he ↦ ?_⟩
    cases hbefore : t.entryOf? id with
    | none =>
      obtain ⟨r, hr, rfl⟩ := hm.entryOf?_of_none hbefore he
      exact ⟨r, hr, .refl⟩
    | some e₀ =>
      obtain ⟨r, hr, hw⟩ := ht id e₀ hbefore
      obtain ⟨e', he', hw'⟩ := hc.writes hm hbefore
      obtain rfl : e' = e := Option.some.inj (he'.symm.trans he)
      exact ⟨r, hr, hw.trans hw'⟩

theorem Run.coherent (h : Run settings p .empty labels messages s)
    (he : s.entryOf? id = some e) : (Shared.mk e 0).Coherent := by
  obtain ⟨r, -, hw⟩ := h.writes he
  exact (Shared.coherent_new r).reaches hw

theorem System.status_of_entryOf? (he : s.entryOf? id = some e) :
    s.status id = .ok e.record := by
  simp [System.status, he]

/-- A caller who waits reads a record that is over, and that stays as it was read. -/
theorem Awaited.final (h : Run settings p .empty labels messages s) {r : Record}
    (hw : Awaited settings p s id u (.ok r)) :
    ∃ e, u.entryOf? id = some e ∧ e.record = r ∧ r.status.isTerminal = true := by
  generalize hanswer : Except.ok r = answer at hw
  cases hw with
  | unknown => cases hanswer
  | @told labels₁ labels₂ messages₁ messages₂ t _ e _ h₁ he ht h₂ =>
    have hover : e.record.status.isTerminal = true := (h.trans h₁).coherent he |>.told ▸ ht
    have heu := h₂.entryOf?_of_isTerminal he hover
    rw [System.status_of_entryOf? heu, Except.ok.injEq] at hanswer
    exact ⟨e, heu, hanswer.symm, hanswer ▸ hover⟩

end FleetControl.Dispatch
