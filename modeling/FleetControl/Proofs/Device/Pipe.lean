import FleetControl.Device.Pipe
import Mathlib.Data.List.Induction
import Mathlib.Data.Nat.Notation

namespace FleetControl.Device

open Telemetry (Payload)

/-- An error ends a feed, unless it is that of one event which cannot be read. -/
def Feed.endsAt : Item → Bool
  | .ok _ => false
  | .error (.stream _) => false
  | .error (.decode _) => false
  | .error (.transport _) => true
  | .error .timeout => true
  | .error (.status _ _) => true

theorem Feed.endsAt_iff {item : Item} : endsAt item = true ↔
    ∃ e, item = .error e ∧ (∀ e', e ≠ .stream e') ∧ ∀ message, e ≠ .decode message := by
  rcases item with (m | _ | ⟨code, body⟩ | m | e) | p <;> simp [endsAt]

def Feed.Step.isEnd : Step → Bool
  | .message _ => false
  | .passedOver => false
  | .ended => true

theorem Feed.endsAt_eq (item : Item) : endsAt item = (step item).isEnd := by
  rcases item with (m | _ | ⟨code, body⟩ | m | e) | p <;> rfl

theorem feed_cons_message {item : Item} {p : Payload} (h : Feed.step item = .message p)
    (rest : List Item) : feed (item :: rest) = p :: feed rest := by
  rw [feed, h]

theorem feed_cons_passedOver {item : Item} (h : Feed.step item = .passedOver) (rest : List Item) :
    feed (item :: rest) = feed rest := by
  rw [feed, h]

theorem feed_cons_ended {item : Item} (h : Feed.step item = .ended) (rest : List Item) :
    feed (item :: rest) = [] := by
  rw [feed, h]

theorem feed_eq (items : List Item) :
    feed items = (items.takeWhile fun item ↦ !Feed.endsAt item).filterMap Except.toOption := by
  induction items with
  | nil => rfl
  | cons item rest ih =>
    rcases item with (m | _ | m | m | e) | p
    · rfl
    · rfl
    · rfl
    · exact ih
    · exact ih
    · exact congrArg (p :: ·) ih

theorem feed_prefix_append (items rest : List Item) : feed items <+: feed (items ++ rest) := by
  induction items with
  | nil => exact List.nil_prefix
  | cons item items ih =>
    rw [List.cons_append]
    cases hs : Feed.step item with
    | message p =>
      rw [feed_cons_message hs, feed_cons_message hs]
      exact (List.prefix_cons_inj p).mpr ih
    | passedOver =>
      rw [feed_cons_passedOver hs, feed_cons_passedOver hs]
      exact ih
    | ended =>
      rw [feed_cons_ended hs]
      exact List.nil_prefix

namespace Pipe

variable {q r t : Pipe} {got more : List Payload} {p : Payload} {items : List Item} {ends : Bool}
  {count : ℕ} {timedOut : Bool}

def left (q : Pipe) : List Payload :=
  q.waiting ++
    match q.reader with
    | .reading => feed q.source
    | .sending p => p :: feed q.source
    | .stopped => []

def closes (q : Pipe) : Bool :=
  match q.reader with
  | .stopped => true
  | _ => q.ends || q.source.any Feed.endsAt

def rank (q : Pipe) : ℕ :=
  4 * q.source.length + q.waiting.length +
    match q.reader with
    | .reading => 1
    | .sending _ => 3
    | .stopped => 0

theorem closes_new (items : List Item) (ends : Bool) :
    (new items ends).closes = (ends || items.any Feed.endsAt) := rfl

theorem closes_cons {item : Item} {rest : List Item} {waiting : List Payload} :
    closes ⟨item :: rest, ends, .reading, waiting⟩ =
      (Feed.endsAt item || closes ⟨rest, ends, .reading, waiting⟩) := by
  simp only [closes, List.any_cons]
  exact Bool.or_left_comm _ _ _

theorem of_read? (h : q.read? = some t) :
    t.left = q.left ∧ t.closes = q.closes ∧ t.rank < q.rank := by
  obtain ⟨source, ends, reader, waiting⟩ := q
  cases reader with
  | reading =>
    cases source with
    | nil =>
      cases ends with
      | false => simp [read?] at h
      | true =>
        obtain rfl := Option.some.inj h
        exact ⟨rfl, rfl, Nat.lt_succ_self _⟩
    | cons item rest =>
      rw [closes_cons]
      cases hs : Feed.step item with
      | message p =>
        simp only [read?, hs, Option.some.injEq] at h
        subst h
        refine ⟨?_, ?_, ?_⟩
        · simp only [left, feed_cons_message hs]
        · simp only [Feed.endsAt_eq, hs, Feed.Step.isEnd, Bool.false_or, closes]
        · simp only [rank, List.length_cons]
          omega
      | passedOver =>
        simp only [read?, hs, Option.some.injEq] at h
        subst h
        refine ⟨?_, ?_, ?_⟩
        · simp only [left, feed_cons_passedOver hs]
        · simp only [Feed.endsAt_eq, hs, Feed.Step.isEnd, Bool.false_or]
        · simp only [rank, List.length_cons]
          omega
      | ended =>
        simp only [read?, hs, Option.some.injEq] at h
        subst h
        refine ⟨?_, ?_, ?_⟩
        · simp only [left, feed_cons_ended hs]
        · simp only [Feed.endsAt_eq, hs, Feed.Step.isEnd, Bool.true_or, closes]
        · simp only [rank, List.length_cons]
          omega
  | sending p =>
    simp only [read?, Option.ite_none_right_eq_some, Option.some.injEq] at h
    obtain ⟨-, rfl⟩ := h
    refine ⟨?_, rfl, ?_⟩
    · simp only [left, List.append_assoc, List.singleton_append]
    · simp only [rank, List.length_append, List.length_singleton]
      omega
  | stopped => simp [read?] at h

theorem of_take? (h : q.take? = some (p, t)) :
    q.left = p :: t.left ∧ t.closes = q.closes ∧ t.rank < q.rank := by
  obtain ⟨source, ends, reader, waiting⟩ := q
  cases waiting with
  | nil => simp [take?] at h
  | cons first rest =>
    simp only [take?, Option.some.injEq, Prod.mk.injEq] at h
    obtain ⟨rfl, rfl⟩ := h
    simp [left, closes, rank]

/-- The task and the consumer wait for each other at no time. -/
theorem over_or_hangs (hr : q.read? = none) (ht : q.take? = none) : q.isOver ∨ q.hangs := by
  obtain ⟨source, ends, reader, waiting⟩ := q
  cases waiting with
  | cons first rest => simp [take?] at ht
  | nil =>
    cases reader with
    | reading =>
      cases source with
      | nil =>
        cases ends with
        | true => simp [read?] at hr
        | false => exact Or.inr rfl
      | cons item rest =>
        simp only [read?] at hr
        split at hr <;> cases hr
    | sending p => simp [read?, capacity] at hr
    | stopped => exact Or.inl rfl

theorem left_of_isOver (h : q.isOver) : q.left = [] := by
  unfold isOver at h
  unfold left
  split at h
  · rename_i hr
    rw [hr, List.isEmpty_iff.mp h]
    rfl
  · cases h

theorem of_hangs (h : q.hangs) : q.left = [] ∧ q.closes = false := by
  obtain ⟨source, ends, reader, waiting⟩ := q
  cases reader with
  | reading =>
    simp only [hangs, Bool.and_eq_true, List.isEmpty_iff, Bool.not_eq_true'] at h
    obtain ⟨⟨rfl, rfl⟩, rfl⟩ := h
    exact ⟨rfl, rfl⟩
  | sending p => cases h
  | stopped => cases h

/-- Nothing is lost, repeated or put in another order. -/
theorem Run.left_eq (h : q.Run got t) : q.left = got ++ t.left ∧ t.closes = q.closes := by
  induction h with
  | nil => exact ⟨rfl, rfl⟩
  | read _ hs ih =>
    obtain ⟨hl, hc, -⟩ := of_read? hs
    exact ⟨hl ▸ ih.1, hc.trans ih.2⟩
  | take _ hs ih =>
    obtain ⟨hl, hc, -⟩ := of_take? hs
    refine ⟨?_, hc.trans ih.2⟩
    rw [ih.1, hl, List.append_assoc, List.singleton_append]

theorem Run.prefix_feed (h : (new items ends).Run got t) : got <+: feed items :=
  ⟨t.left, h.left_eq.1.symm⟩

theorem Run.eq_left (h : q.Run got t) (ho : t.isOver) : got = q.left := by
  rw [h.left_eq.1, left_of_isOver ho, List.append_nil]

theorem Run.eq_feed (h : (new items ends).Run got t) (ho : t.isOver) : got = feed items :=
  h.eq_left ho

theorem exists_over (q : Pipe) : ∃ got t, q.Run got t ∧ (t.isOver ∨ t.hangs) := by
  suffices hgo : ∀ {got r}, q.Run got r → ∃ got t, q.Run got t ∧ (t.isOver ∨ t.hangs) from hgo .nil
  intro got r h
  -- Every step lowers the rank, so some state has none.
  induction hn : r.rank using Nat.strongRecOn generalizing got r with
  | ind n ih =>
    subst hn
    cases hr : r.read? with
    | some t => exact ih _ (of_read? hr).2.2 (h.read hr) rfl
    | none =>
      cases ht : r.take? with
      | some step => exact ih _ (of_take? ht).2.2 (h.take ht) rfl
      | none => exact ⟨got, r, h, over_or_hangs hr ht⟩

theorem Sample.run (h : q.Sample count timedOut got) : ∃ t, q.Run got t := by
  cases h with
  | full hr => exact ⟨_, hr⟩
  | ended hr => exact ⟨_, hr⟩
  | timedOut hr => exact ⟨_, hr⟩

theorem Sample.eq_take (h : q.Sample count false got) : got = q.left.take count := by
  cases h with
  | full hr hlen => rw [hr.left_eq.1, ← hlen, List.take_left]
  | ended hr hlen ho => rw [← hr.eq_left ho, List.take_of_length_le (Nat.le_of_lt hlen)]

theorem Sample.prefix_take (h : q.Sample count true got) : got <+: q.left.take count := by
  cases h with
  | timedOut hr hlen =>
    exact List.prefix_take_iff.mpr ⟨⟨_, hr.left_eq.1.symm⟩, hlen⟩

theorem exists_sample (hq : q.closes ∨ count ≤ q.left.length) : ∃ got, q.Sample count false got := by
  suffices hgo : ∀ {got r}, q.Run got r → got.length ≤ count → ∃ got, q.Sample count false got from
    hgo .nil (Nat.zero_le _)
  intro got r h hlen
  induction hn : r.rank using Nat.strongRecOn generalizing got r with
  | ind n ih =>
    subst hn
    rcases Nat.eq_or_lt_of_le hlen with he | hlt
    · exact ⟨got, .full h he⟩
    cases ht : r.take? with
    | some step => exact ih _ (of_take? ht).2.2 (h.take ht) (List.length_append ▸ hlt) rfl
    | none =>
      cases hr : r.read? with
      | some t => exact ih _ (of_read? hr).2.2 (h.read hr) hlen rfl
      | none =>
        rcases over_or_hangs hr ht with ho | hh
        · exact ⟨got, .ended h hlt ho⟩
        · obtain ⟨hl, hc⟩ := h.left_eq
          obtain ⟨hnone, hopen⟩ := of_hangs hh
          rw [hnone, List.append_nil] at hl
          rw [hl, ← hc, hopen] at hq
          rcases hq with hq | hq
          · cases hq
          · omega

end Pipe

end FleetControl.Device
