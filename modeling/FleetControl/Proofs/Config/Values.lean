import FleetControl.Config.Part
import FleetControl.Proofs.Json.Record

namespace FleetControl.Config

open Told

variable {ε α β : Type} {t : Tree} {v : Json} {o : Option β} {f : β → α}

theorem ok_bind (a : α) (g : α → Except ε β) : (Except.ok a >>= g) = g a := rfl

theorem ofName?_name (a : Command.Action) : Command.Action.ofName? a.name = some a := by
  cases a <;> decide

theorem lookup_name (a : Command.Action) : Command.Action.names.lookup a.name = some a := by
  cases a <;> decide

namespace Tree

theorem eq_table_of_told {entries : List (String × Tree)} (h : t.told = .table entries) :
    t = .table entries := by
  unfold told at h
  split at h <;> simp_all

theorem text_of_told {s : String} (h : IsText told s t) : t.text = .ok s := by
  unfold IsText told at h
  split at h <;> simp_all [text]

theorem long_of_told {n : ℕ} (h : IsNat told n t) : t.long = .ok n := by
  unfold IsNat told at h
  split at h <;> simp_all [long]

theorem word_of_told {n : UInt32} (h : IsNat told n.toNat t) : t.word = .ok n.toNat := by
  rw [word, long_of_told h, ok_bind, if_pos n.toNat_lt_size]
  rfl

theorem double_of_told {x : Float} (h : IsDouble told x t) : t.double = .ok x := by
  rcases h with h | ⟨n, h, rfl⟩ <;> unfold told at h <;> split at h <;> simp_all [double]

theorem option_of_told {tells : β → Tree → Prop} {read : Tree → Except ReadError α}
    (hread : ∀ b t, tells b t → read t = .ok (f b)) (h : IsOption told tells o t) :
    option read t = .ok (o.map f) := by
  cases o with
  | none =>
    change t.told = .nothing at h
    unfold told at h
    split at h <;> first | rfl | cases h
  | some b =>
    have hr := hread b t h.2
    cases t <;> simp_all [IsOption, told, option, Except.map]

theorem action_of_told {a : Command.Action} (h : t.told = .text a.name) : t.action = .ok a := by
  have hname := ofName?_name a
  unfold told at h
  split at h <;> simp_all [action]

theorem actions_of_told {as : List Command.Action} (h : IsActions told as t) :
    t.actions = .ok as := by
  obtain ⟨items, ht, hitems⟩ := h
  have hfrom (index : ℕ) : itemsFrom action index items = .ok as := by
    clear ht
    induction items generalizing as index with
    | nil => simp_all [itemsFrom]
    | cons item items ih =>
      cases as with
      | nil => cases hitems
      | cons a as =>
        rw [List.map_cons, List.map_cons, List.cons.injEq] at hitems
        rw [itemsFrom, action_of_told hitems.1, ih hitems.2 (index + 1)]
        rfl
  unfold told at ht
  split at ht <;> simp_all [actions]

end Tree

/-- What is read under a key of a section: its value if it is told, and else what stands for it. -/
theorem Section.get_named {tells : β → Tree → Prop} {read : Tree → Except ReadError α}
    {entries : List (String × Tree)} {key : String}
    (h : IsUnder tells entries key o) (hread : ∀ b t, tells b t → read t = .ok (f b)) (place : ℕ)
    (absent : α) : (named entries).get place key read absent = .ok ((o.map f).getD absent) := by
  cases o with
  | none =>
    change entries.lookup key = none at h
    rw [get, h]
    rfl
  | some b =>
    obtain ⟨t, ht, htells⟩ := h
    rw [get, ht, Option.elim_some, hread b t htells]
    rfl

namespace Told

theorem object_of_told {fields : List (String × Json)} (h : ofJson v = .table fields) :
    v = .object fields := by
  unfold ofJson at h
  split at h <;> simp_all

theorem text_read {s : String} (h : IsText ofJson s v) :
    Json.Reader.text .value v.draft = .ok s := by
  unfold IsText ofJson at h
  split at h <;> simp_all [Json.draft, Json.Reader.text]

theorem natBelow_read {n bound : ℕ} (hn : n < bound) (name : String) (h : IsNat ofJson n v) :
    Json.Reader.natBelow bound name .value v.draft = .ok n := by
  unfold IsNat ofJson at h
  split at h <;> simp_all [Json.draft, Json.Reader.natBelow]

theorem word_read {n : UInt32} (h : IsNat ofJson n.toNat v) :
    Json.Reader.word .value v.draft = .ok n.toNat :=
  natBelow_read n.toNat_lt_size "u32" h

theorem long_read {n : UInt64} (h : IsNat ofJson n.toNat v) :
    Json.Reader.long .value v.draft = .ok n.toNat :=
  natBelow_read n.toNat_lt_size "u64" h

theorem count_read {n : UInt64} (h : IsNat ofJson n.toNat v) :
    Json.Reader.count .value v.draft = .ok n.toNat :=
  natBelow_read n.toNat_lt_size "usize" h

theorem double_read {x : Float} (h : IsDouble ofJson x v) :
    Json.Reader.double .value v.draft = .ok x := by
  rcases h with h | ⟨n, h, rfl⟩ <;> unfold ofJson at h <;> split at h <;>
    simp_all [Json.draft, Json.Reader.double]

theorem option_read {tells : β → Json → Prop} {r : Json.Reader α}
    (hread : ∀ b v, tells b v → r .value v.draft = .ok (f b)) (h : IsOption ofJson tells o v) :
    Json.Reader.option r .value v.draft = .ok (o.map f) := by
  cases o with
  | none =>
    change ofJson v = .nothing at h
    unfold ofJson at h
    split at h <;> first | rfl | cases h
  | some b =>
    have hr := hread b v h.2
    cases v <;> simp_all [IsOption, ofJson, Json.draft, Json.Reader.option, Except.map]

theorem action_read {a : Command.Action} (h : ofJson v = .text a.name) :
    Command.Action.reader .value v.draft = .ok a := by
  have hname := lookup_name a
  unfold ofJson at h
  split at h <;>
    simp_all [Json.draft, Command.Action.reader, Json.Reader.variant, Json.Reader.named]

theorem actions_read {as : List Command.Action} (h : IsActions ofJson as v) :
    Json.Reader.list Command.Action.reader .value v.draft = .ok as := by
  obtain ⟨items, hv, hitems⟩ := h
  have hread : Json.Reader.items Command.Action.reader .value none (Json.draftItems items) =
      .ok as := by
    clear hv
    induction items generalizing as with
    | nil => simp_all [Json.draftItems, Json.Reader.items]
    | cons item items ih =>
      cases as with
      | nil => cases hitems
      | cons a as =>
        rw [List.map_cons, List.map_cons, List.cons.injEq] at hitems
        rw [Json.draftItems, Json.Reader.items, action_read hitems.1, ih hitems.2]
        rfl
  unfold ofJson at hv
  split at hv <;> simp_all [Json.draft, Json.Reader.list]

theorem reads_defaulted {tells : β → Json → Prop} {r : Json.Reader α}
    {fields : List (String × Json)} {key : String}
    (h : IsUnder tells fields key o) (hread : ∀ b v, tells b v → r .value v.draft = .ok (f b))
    (absent : α) :
    (Json.Record.defaulted key r absent).Reads .value fields ((o.map f).getD absent) := by
  refine Json.Record.reads_field ?_
  cases o with
  | none =>
    change fields.lookup key = none at h
    rw [Json.Record.under, h]
    rfl
  | some b =>
    obtain ⟨v, hv, htells⟩ := h
    rw [Json.Record.under, hv]
    exact hread b v htells

end Told

end FleetControl.Config
