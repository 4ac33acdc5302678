import FleetControl.Proofs.Device.Body
import FleetControl.Proofs.Device.Pipe
import FleetControl.Rehearsal.Session

namespace FleetControl.Rehearsal

open Device (feed Body Pipe Item)
open Telemetry (Decoder lineFeed)

variable {ends : Bool} {start limit : Span} {items : List StreamItem} {count : ℕ}

theorem feedFrom_messages (ends : Bool) (start : Span) (items : List StreamItem) :
    (feedFrom ends start items).messages.map Prod.snd = feed (items.map StreamItem.item) := by
  induction items generalizing start with
  | nil => rfl
  | cons first rest ih =>
    cases hs : Device.Feed.step first.item with
    | message p =>
      rw [List.map_cons, Device.feed_cons_message hs, feedFrom, hs]
      exact congrArg (p :: ·) (ih _)
    | passedOver =>
      rw [List.map_cons, Device.feed_cons_passedOver hs, feedFrom, hs]
      exact ih _
    | ended =>
      rw [List.map_cons, Device.feed_cons_ended hs, feedFrom, hs]
      rfl

theorem feedFrom_ends (ends : Bool) (start : Span) (items : List StreamItem) :
    (feedFrom ends start items).ends.isSome =
      (ends || (items.map StreamItem.item).any Device.Feed.endsAt) := by
  induction items generalizing start with
  | nil => cases ends <;> rfl
  | cons first rest ih =>
    rw [List.map_cons, List.any_cons, Bool.or_left_comm, Device.Feed.endsAt_eq]
    cases hs : Device.Feed.step first.item with
    | message p =>
      rw [feedFrom, hs, Device.Feed.Step.isEnd, Bool.false_or]
      exact ih _
    | passedOver =>
      rw [feedFrom, hs, Device.Feed.Step.isEnd, Bool.false_or]
      exact ih _
    | ended =>
      rw [feedFrom, hs, Device.Feed.Step.isEnd, Bool.true_or]
      rfl

theorem le_of_mem_feedFrom {m : Span × Telemetry.Payload}
    (h : m ∈ (feedFrom ends start items).messages) : start ≤ m.1 := by
  induction items generalizing start with
  | nil => cases h
  | cons first rest ih =>
    have hle : start ≤ start + first.delay := Nat.le_add_right _ _
    cases hs : Device.Feed.step first.item with
    | message p =>
      rw [feedFrom, hs] at h
      rcases List.mem_cons.mp h with rfl | h
      · exact hle
      · exact Nat.le_trans hle (ih h)
    | passedOver =>
      rw [feedFrom, hs] at h
      exact Nat.le_trans hle (ih h)
    | ended =>
      rw [feedFrom, hs] at h
      cases h

def Feeding.before (f : Feeding) (leaves : Option Span) : List (Span × Telemetry.Payload) :=
  f.messages.filter fun (time, _) ↦ leaves.all fun t ↦ time < t

theorem before_none (f : Feeding) : f.before none = f.messages :=
  List.filter_eq_self.mpr fun _ _ ↦ rfl

theorem before_cons_of_lt {time : Span} (f : Feeding) (p : Telemetry.Payload) (h : time < limit) :
    Feeding.before { f with messages := (time, p) :: f.messages } (some limit) =
      (time, p) :: f.before (some limit) :=
  List.filter_cons_of_pos (decide_eq_true h)

theorem before_of_le (h : limit ≤ start) :
    (feedFrom ends start items).before (some limit) = [] := by
  refine List.filter_eq_nil_iff.mpr fun (time, p) hm ↦ ?_
  have hlate : limit ≤ time := Nat.le_trans h (le_of_mem_feedFrom hm)
  exact fun hearly ↦ Nat.not_le_of_lt (of_decide_eq_true hearly) hlate

theorem take_messages (f : Feeding) (start : Span) (count : ℕ) (leaves : Option Span) :
    (f.take start count leaves).messages = ((f.before leaves).take count).map Prod.snd := by
  unfold Feeding.take
  dsimp only
  split
  · rfl
  · cases f.ends with
    | none => cases leaves <;> rfl
    | some e =>
      cases leaves with
      | none => rfl
      | some t =>
        dsimp only
        split <;> rfl

theorem take_ended (f : Feeding) (start : Span) (count : ℕ) :
    (f.take start count none).ended = (decide (f.messages.length < count) && f.ends.isSome) := by
  have hlength : (f.messages.take count).length = count ↔ ¬ f.messages.length < count := by
    rw [List.length_take]
    omega
  unfold Feeding.take
  change (if ((f.before none).take count).length = count then _ else _ : Taken).ended = _
  rw [before_none]
  by_cases hlt : f.messages.length < count
  · rw [if_neg fun h ↦ hlength.mp h hlt, decide_eq_true hlt, Bool.true_and]
    cases f.ends <;> rfl
  · rw [if_pos (hlength.mpr hlt), decide_eq_false hlt]
    rfl

namespace Stream

/-- The items of a stream that come before a time limit, one waited for after the other. -/
def itemsWithin (limit : Span) : List StreamItem → List Item
  | [] => []
  | first :: rest =>
    if first.delay < limit then first.item :: itemsWithin (limit - first.delay) rest else []

/-- Whether a stream comes to its end, or to an item that ends a feed, before a time limit. -/
def closesWithin (ends : Bool) (limit : Span) : List StreamItem → Bool
  | [] => ends && decide (0 < limit)
  | first :: rest =>
    decide (first.delay < limit) &&
      (Device.Feed.endsAt first.item || closesWithin ends (limit - first.delay) rest)

theorem prefix_itemsWithin (limit : Span) (items : List StreamItem) :
    itemsWithin limit items <+: items.map StreamItem.item := by
  induction items generalizing limit with
  | nil => exact List.prefix_rfl
  | cons first rest ih =>
    rw [itemsWithin]
    split
    · exact (List.prefix_cons_inj _).mpr (ih _)
    · exact List.nil_prefix

theorem prefix_feed_itemsWithin (limit : Span) (items : List StreamItem) :
    feed (itemsWithin limit items) <+: feed (items.map StreamItem.item) := by
  obtain ⟨rest, hrest⟩ := prefix_itemsWithin limit items
  rw [← hrest]
  exact Device.feed_prefix_append _ rest

theorem before_limit (ends : Bool) (start limit : Span) (items : List StreamItem) :
    ((feedFrom ends start items).before (some (start + limit))).map Prod.snd =
      feed (itemsWithin limit items) := by
  induction items generalizing start limit with
  | nil => rfl
  | cons first rest ih =>
    rw [itemsWithin]
    split
    case isTrue hlt =>
      have hlimit : start + first.delay + (limit - first.delay) = start + limit := by
        rw [Nat.add_assoc, Nat.add_sub_cancel' (Nat.le_of_lt hlt)]
      have hrest := ih (start + first.delay) (limit - first.delay)
      rw [hlimit] at hrest
      cases hs : Device.Feed.step first.item with
      | message p =>
        rw [Device.feed_cons_message hs, feedFrom, hs]
        dsimp only
        rw [before_cons_of_lt _ p (Nat.add_lt_add_left hlt start), List.map_cons, hrest]
      | passedOver =>
        rw [Device.feed_cons_passedOver hs, feedFrom, hs]
        exact hrest
      | ended =>
        rw [Device.feed_cons_ended hs, feedFrom, hs]
        rfl
    case isFalse hle =>
      -- The first item comes too late, and so do all that follow.
      have hlate : start + limit ≤ start + first.delay :=
        Nat.add_le_add_left (Nat.le_of_not_lt hle) start
      have hnone : (feedFrom ends (start + first.delay) (⟨0, first.item⟩ :: rest)).before
          (some (start + limit)) = [] := before_of_le hlate
      exact congrArg (List.map Prod.snd) hnone

theorem closes_of_closesWithin (h : closesWithin ends limit items = true) :
    (Pipe.new (items.map StreamItem.item) ends).closes = true ∧
      feed (itemsWithin limit items) = feed (items.map StreamItem.item) := by
  induction items generalizing limit with
  | nil =>
    obtain rfl : ends = true := ((Bool.and_eq_true _ _).mp h).1
    exact ⟨rfl, rfl⟩
  | cons first rest ih =>
    rw [closesWithin, Bool.and_eq_true, decide_eq_true_eq, Device.Feed.endsAt_eq] at h
    obtain ⟨hlt, hrest⟩ := h
    rw [itemsWithin, if_pos hlt, List.map_cons, Pipe.new, Pipe.closes_cons, ← Pipe.new,
      Device.Feed.endsAt_eq]
    cases hs : Device.Feed.step first.item with
    | message p =>
      rw [hs, Device.Feed.Step.isEnd, Bool.false_or] at hrest
      rw [Device.Feed.Step.isEnd, Bool.false_or, Device.feed_cons_message hs,
        Device.feed_cons_message hs]
      exact ⟨(ih hrest).1, congrArg (p :: ·) (ih hrest).2⟩
    | passedOver =>
      rw [hs, Device.Feed.Step.isEnd, Bool.false_or] at hrest
      rw [Device.Feed.Step.isEnd, Bool.false_or, Device.feed_cons_passedOver hs,
        Device.feed_cons_passedOver hs]
      exact ih hrest
    | ended =>
      rw [Device.feed_cons_ended hs, Device.feed_cons_ended hs]
      exact ⟨rfl, rfl⟩

/-- What a caller gets who wants so many messages and leaves at a time limit. -/
def sampled (s : Stream) (count : ℕ) (limit : Span) : List Telemetry.Payload :=
  (feed (itemsWithin limit s.items)).take count

/-- Whether the time limit comes first: before the feed ends, and before it has brought so many
messages. -/
def outlasts (s : Stream) (count : ℕ) (limit : Span) : Bool :=
  !closesWithin s.ends limit s.items && decide ((feed (itemsWithin limit s.items)).length < count)

theorem prefix_sampled (s : Stream) (count : ℕ) (limit : Span) :
    s.sampled count limit <+: (feed (s.items.map StreamItem.item)).take count :=
  List.prefix_take_iff.mpr
    ⟨(List.take_prefix _ _).trans (prefix_feed_itemsWithin limit s.items), List.length_take_le _ _⟩

theorem closes_or_enough {s : Stream} (h : s.outlasts count limit = false) :
    closesWithin s.ends limit s.items = true ∨ count ≤ (feed (itemsWithin limit s.items)).length := by
  rw [outlasts, Bool.and_eq_false_iff, Bool.not_eq_false', decide_eq_false_iff_not] at h
  exact h.imp_right Nat.le_of_not_lt

theorem sampled_eq {s : Stream} (h : s.outlasts count limit = false) :
    s.sampled count limit = (feed (s.items.map StreamItem.item)).take count := by
  rcases closes_or_enough h with hcloses | henough
  · rw [sampled, (closes_of_closesWithin hcloses).2]
  · obtain ⟨rest, hrest⟩ := prefix_feed_itemsWithin limit s.items
    rw [sampled, ← hrest, List.take_append_of_le_length henough]

theorem sample_sampled (s : Stream) (count : ℕ) (limit : Span) :
    (Pipe.new (s.items.map StreamItem.item) s.ends).Sample count (s.outlasts count limit)
      (s.sampled count limit) := by
  have hprefix := prefix_feed_itemsWithin limit s.items
  cases hout : s.outlasts count limit with
  | false =>
    have hends : (Pipe.new (s.items.map StreamItem.item) s.ends).closes = true ∨
        count ≤ (feed (s.items.map StreamItem.item)).length :=
      (closes_or_enough hout).imp (fun hc ↦ (closes_of_closesWithin hc).1)
        fun hle ↦ Nat.le_trans hle hprefix.length_le
    obtain ⟨got, hgot⟩ := Pipe.exists_sample hends
    have hsame : got = s.sampled count limit := hgot.eq_take.trans (sampled_eq hout).symm
    exact hsame ▸ hgot
  | true =>
    have hbrought := (List.take_prefix count _).trans hprefix
    obtain ⟨got, hgot⟩ : ∃ got, (Pipe.new (s.items.map StreamItem.item) s.ends).Sample
        (s.sampled count limit).length false got := Pipe.exists_sample (Or.inr hbrought.length_le)
    have hsame : got = s.sampled count limit :=
      hgot.eq_take.trans (List.prefix_iff_eq_take.mp hbrought).symm
    obtain ⟨t, hrun⟩ := hgot.run
    exact .timedOut (hsame ▸ hrun) (List.length_take_le _ _)

end Stream

def Stage.opened (p : Retry.Policy) (s : Stage) (device : String) : Except Service.Error Stream :=
  (s.request p (repliesFor device s.replies.telemetry)
    (s.replies.last (.telemetry device) (.object [])) (fun v ↦ .ok (Stream.ofJson v)) device "telemetry"
    [("device", .text device)]).2.1

theorem exists_takeFrom_eq (p : Retry.Policy) (s : Stage) (device : String) (count : ℕ)
    (patience : Option Span) : ∃ start, (s.takeFrom p device count patience).2 =
      (s.opened p device).map fun stream ↦
        (feedFrom stream.ends start stream.items).take start count (patience.map (start + ·)) := by
  unfold Stage.takeFrom Stage.opened
  generalize s.request p _ _ _ _ _ _ = answer
  obtain ⟨s', result, used⟩ := answer
  refine ⟨s'.now, ?_⟩
  cases result <;> rfl

theorem takeFrom_eq (p : Retry.Policy) (s : Stage) (device : String) (count : ℕ) :
    (s.takeFrom p device count none).2.map (fun taken ↦ (taken.messages, taken.ended)) =
      (s.opened p device).map fun stream ↦
        ((feed (stream.items.map StreamItem.item)).take count,
          decide ((feed (stream.items.map StreamItem.item)).length < count) &&
            (stream.ends || (stream.items.map StreamItem.item).any Device.Feed.endsAt)) := by
  obtain ⟨start, hstart⟩ := exists_takeFrom_eq p s device count none
  rw [hstart]
  cases s.opened p device with
  | error e => rfl
  | ok stream =>
    have hlength := congrArg List.length (feedFrom_messages stream.ends start stream.items)
    rw [List.length_map] at hlength
    simp only [Except.map, Option.map_none, take_messages, take_ended, before_none, List.map_take,
      feedFrom_messages, feedFrom_ends, hlength]

theorem run_sample (p : Retry.Policy) (s : Stage) (sampling : Tool.Sampling) :
    (s.run p (.sample sampling)).2 = (s.opened p sampling.device).map fun stream ↦
      .list ((stream.sampled (Device.sampleSize sampling.maxEvents) sampling.timeout).map
        Telemetry.Payload.toJson) := by
  obtain ⟨start, hstart⟩ := exists_takeFrom_eq p s sampling.device
    (Device.sampleSize sampling.maxEvents) (some sampling.timeout)
  unfold Stage.run
  dsimp only
  rw [hstart]
  cases s.opened p sampling.device with
  | error e => rfl
  | ok stream =>
    simp only [Except.map, Option.map_some, take_messages, List.map_take,
      Stream.before_limit, Stream.sampled]

theorem feed_streamItems (chunks : List (List UInt8)) (failure : Option String) :
    feed (Device.streamItems chunks failure).flatten =
      (Decoder.decodeChunks Decoder.drainPayloads .empty chunks).flatten.filterMap
        Except.toOption := by
  have hitems (results : List (Except Telemetry.EventError Telemetry.Payload)) (rest : List Item) :
      feed (Body.itemsOf results ++ rest) = results.filterMap Except.toOption ++ feed rest := by
    induction results with
    | nil => rfl
    | cons result results ih =>
      cases result with
      | error e => exact ih
      | ok p => exact congrArg (p :: ·) ih
  cases failure with
  | none =>
    have hall := hitems (Decoder.decodeChunks Decoder.drainPayloads .empty chunks).flatten []
    rwa [List.append_nil, ← Body.streamItems_none, feed, List.append_nil] at hall
  | some e =>
    have hall := hitems (Decoder.decodeChunks Decoder.drainPayloads .empty chunks).flatten
      [.error (.transport e)]
    rwa [← Body.streamItems_none, ← Body.streamItems_some, Device.feed_cons_ended rfl,
      List.append_nil] at hall

theorem exists_end {items : List Item} {ends : Bool} {got : List Telemetry.Payload} {q : Pipe}
    (h : (Pipe.new items ends).Run got q) :
    ∃ rest r, q.Run rest r ∧
      (r.isOver ∨ r.hangs ∧ ends = false ∧ items.any Device.Feed.endsAt = false) := by
  obtain ⟨rest, r, hr, hover | hhangs⟩ := Pipe.exists_over q
  · exact ⟨rest, r, hr, Or.inl hover⟩
  · have hcloses := (Pipe.of_hangs hhangs).2
    rw [hr.left_eq.2, h.left_eq.2, Pipe.closes_new, Bool.or_eq_false_iff] at hcloses
    exact ⟨rest, r, hr, Or.inr ⟨hhangs, hcloses⟩⟩

/-- Messages from a connection to a caller. A body yields, chunk by chunk, the results of draining the
decoder, then the error of the connection, and then it ends. A feed has the payloads among its items, up to
the first error that is not of one event, and brings them in their order. A sample is the first of them,
or those that came before its time was up. -/
theorem telemetry_in_order :
    (∀ chunks failure more,
      (∀ items, (Body.new (Body.sourceOf chunks failure more)).Yields items ↔
        items = (Device.streamItems chunks failure).flatten) ∧
      (∀ before after, chunks = before ++ after →
        ∃ b, (Body.new (Body.sourceOf chunks failure more)).Gives
            (Device.streamItems before none).flatten b ∧
          Body.sourceOf after failure more <:+ b.source) ∧
      feed (Device.streamItems chunks failure).flatten =
        (Decoder.decodeChunks Decoder.drainPayloads .empty chunks).flatten.filterMap
          Except.toOption) ∧
    (∀ item, Device.Feed.endsAt item = true ↔
      ∃ e, item = .error e ∧ (∀ e', e ≠ .stream e') ∧ ∀ message, e ≠ .decode message) ∧
    (∀ items ends,
      feed items =
        (items.takeWhile fun item ↦ !Device.Feed.endsAt item).filterMap Except.toOption ∧
      ∀ got q, (Pipe.new items ends).Run got q →
        got <+: feed items ∧ (q.isOver → got = feed items) ∧
        ∃ rest r, q.Run rest r ∧
          (r.isOver ∨ r.hangs ∧ ends = false ∧ items.any Device.Feed.endsAt = false)) ∧
    (∀ items ends asked,
      (∀ got, (Pipe.new items ends).Sample (Device.sampleSize asked) false got →
        got = (feed items).take (max 1 (min asked 1000))) ∧
      (∀ got, (Pipe.new items ends).Sample (Device.sampleSize asked) true got →
        got <+: (feed items).take (max 1 (min asked 1000))) ∧
      (ends = true → ∃ got, (Pipe.new items ends).Sample (Device.sampleSize asked) false got)) ∧
    (∀ (stream : Stream) asked limit,
      (stream.outlasts (Device.sampleSize asked) limit = false →
        stream.sampled (Device.sampleSize asked) limit =
          (feed (stream.items.map StreamItem.item)).take (max 1 (min asked 1000))) ∧
      stream.sampled (Device.sampleSize asked) limit <+:
        (feed (stream.items.map StreamItem.item)).take (max 1 (min asked 1000)) ∧
      (Pipe.new (stream.items.map StreamItem.item) stream.ends).Sample (Device.sampleSize asked)
        (stream.outlasts (Device.sampleSize asked) limit)
        (stream.sampled (Device.sampleSize asked) limit)) ∧
    ∀ p (s : Stage),
      (∀ device count,
        (s.takeFrom p device count none).2.map (fun taken ↦ (taken.messages, taken.ended)) =
          (s.opened p device).map fun stream ↦
            ((feed (stream.items.map StreamItem.item)).take count,
              decide ((feed (stream.items.map StreamItem.item)).length < count) &&
                (stream.ends || (stream.items.map StreamItem.item).any Device.Feed.endsAt))) ∧
      ∀ sampling, (s.run p (.sample sampling)).2 =
        (s.opened p sampling.device).map fun stream ↦
          .list ((stream.sampled (Device.sampleSize sampling.maxEvents) sampling.timeout).map
            Telemetry.Payload.toJson) := by
  refine ⟨?_, fun _ ↦ Device.Feed.endsAt_iff, ?_, ?_, ?_,
    fun p s ↦ ⟨takeFrom_eq p s, run_sample p s⟩⟩
  · intro chunks failure more
    refine ⟨Body.yields_iff chunks failure more, ?_, feed_streamItems chunks failure⟩
    rintro before after rfl
    exact Body.gives_before before after failure more
  · intro items ends
    refine ⟨Device.feed_eq items, ?_⟩
    intro got q h
    exact ⟨h.prefix_feed, h.eq_feed, exists_end h⟩
  · intro items ends asked
    refine ⟨fun got h ↦ h.eq_take, fun got h ↦ h.prefix_take, ?_⟩
    rintro rfl
    exact Pipe.exists_sample (Or.inl rfl)
  · intro stream asked limit
    exact ⟨Stream.sampled_eq, stream.prefix_sampled _ limit, stream.sample_sampled _ limit⟩

def beacon (device : String) : Telemetry.Payload := ⟨device, none, none, none, none, none, []⟩

/-- A stream with two events that cannot be read, and a message behind the error that ends its feed. -/
def unsteady : Stream where
  items := [⟨0, .error (.stream .notText)⟩, ⟨10, .ok (beacon "drone-1")⟩, ⟨10, .error (.decode "cut")⟩,
    ⟨10, .ok (beacon "drone-2")⟩, ⟨5, .error .timeout⟩, ⟨5, .ok (beacon "drone-3")⟩]
  ends := false

def unsteadyJson : Json :=
  let item (delay : ℕ) (key : String) (v : Json) := .ofEntries [("delay_ms", .nat delay), (key, v)]
  .ofEntries [("items", .list
      [item 0 "err" (.ofEntries [("type", .text "bad_utf8")]),
        item 10 "payload" (beacon "drone-1").toJson,
        item 10 "err" (.ofEntries [("type", .text "decode"), ("message", .text "cut")]),
        item 10 "payload" (beacon "drone-2").toJson,
        item 5 "err" (.ofEntries [("type", .text "timeout")]),
        item 5 "payload" (beacon "drone-3").toJson]),
    ("then", .text "hang")]

def unsteadyStage : Stage :=
  .start ⟨[], [], [("drone-1", [.value unsteadyJson])], [], [], [], [], none⟩ ⟨none, [], 0, .null⟩

/-- A sample of five messages that is given up after 25 milliseconds, and one that is not. -/
theorem telemetry_in_order_unsteady :
    (Body.new (Body.sourceOf [[255], [lineFeed]] (some "reset") [.ok [lineFeed]])).Yields
        [.error (.stream .notText), .error (.transport "reset")] ∧
      feed (unsteady.items.map StreamItem.item) = [beacon "drone-1", beacon "drone-2"] ∧
      unsteady.outlasts (Device.sampleSize 5) 25 = true ∧
      (unsteadyStage.run .standard (.sample ⟨"drone-1", 5, 25⟩)).2 =
        .ok (.list [(beacon "drone-1").toJson]) ∧
      unsteady.outlasts (Device.sampleSize 5) 100 = false ∧
      (unsteadyStage.run .standard (.sample ⟨"drone-1", 5, 100⟩)).2 =
        .ok (.list [(beacon "drone-1").toJson, (beacon "drone-2").toJson]) := by
  obtain ⟨hbody, -, hfeed, -, hsampled, hstage⟩ := telemetry_in_order
  have hopened : unsteadyStage.opened .standard "drone-1" = .ok unsteady := by
    simp only [Stage.opened, Stage.request, Retry.Policy.run]
    rw [Retry.Policy.runFrom]
    rfl
  have hall : feed (unsteady.items.map StreamItem.item) = [beacon "drone-1", beacon "drone-2"] :=
    (hfeed _ false).1
  have hintime : unsteady.sampled (Device.sampleSize 5) 100 = [beacon "drone-1", beacon "drone-2"] := by
    rw [(hsampled unsteady 5 100).1 (by rfl), hall]
    rfl
  refine ⟨((hbody [[255], [lineFeed]] (some "reset") [.ok [lineFeed]]).1 _).mpr (by rfl), hall, by rfl,
    ?_, by rfl, ?_⟩
  · rw [(hstage .standard unsteadyStage).2, hopened]
    rfl
  · rw [(hstage .standard unsteadyStage).2, hopened]
    simp only [Except.map, hintime, List.map_cons, List.map_nil]

end FleetControl.Rehearsal
