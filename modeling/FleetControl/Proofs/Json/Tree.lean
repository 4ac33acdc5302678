import FleetControl.Json.Measure
import FleetControl.Proofs.Json.Record
import Mathlib.Data.List.Induction
import Mathlib.Data.List.Perm.Basic
import Mathlib.Data.Nat.Notation
import Mathlib.Tactic.Tauto

namespace FleetControl.Json

/-- Induction over a value, with what holds of the parts of a container. -/
@[elab_as_elim]
theorem ind {motive : Json → Prop} (null : motive .null) (bool : ∀ b, motive (.bool b))
    (number : ∀ n, motive (.number n)) (text : ∀ s, motive (.text s))
    (list : ∀ items, (∀ v ∈ items, motive v) → motive (.list items))
    (object : ∀ fields, (∀ f ∈ fields, motive f.2) → motive (.object fields)) (v : Json) :
    motive v :=
  v.rec (motive_1 := motive) (motive_2 := fun items ↦ ∀ v ∈ items, motive v)
    (motive_3 := fun fields ↦ ∀ f ∈ fields, motive f.2) (motive_4 := fun f ↦ motive f.2)
    null bool number text list object (List.forall_mem_nil _)
    (fun _ _ h hs ↦ List.forall_mem_cons.mpr ⟨h, hs⟩) (List.forall_mem_nil _)
    (fun _ _ h hs ↦ List.forall_mem_cons.mpr ⟨h, hs⟩) (fun _ _ h ↦ h)

@[elab_as_elim]
theorem Draft.ind {motive : Draft → Prop} (null : motive .null) (bool : ∀ b, motive (.bool b))
    (number : ∀ n, motive (.number n)) (text : ∀ s, motive (.text s))
    (list : ∀ items fault, (∀ d ∈ items, motive d) → motive (.list items fault))
    (object : ∀ entries fault, (∀ e ∈ entries, motive e.2) → motive (.object entries fault))
    (valueless : ∀ f kind, motive (.valueless f kind)) (deep : ∀ d, motive (.deep d))
    (broken : ∀ b kind, motive (.broken b kind)) (d : Draft) : motive d :=
  d.rec (motive_1 := motive) (motive_2 := fun items ↦ ∀ d ∈ items, motive d)
    (motive_3 := fun entries ↦ ∀ e ∈ entries, motive e.2) (motive_4 := fun e ↦ motive e.2)
    null bool number text list object valueless (fun d _ ↦ deep d) broken
    (List.forall_mem_nil _) (fun _ _ h hs ↦ List.forall_mem_cons.mpr ⟨h, hs⟩)
    (List.forall_mem_nil _) (fun _ _ h hs ↦ List.forall_mem_cons.mpr ⟨h, hs⟩) (fun _ _ h ↦ h)

variable {v : Json} {items : List Json} {fields : Fields} {key name : String} {k : ℕ}

def Rising (fields : Fields) : Prop := fields.Pairwise fun f g ↦ f.1 < g.1

theorem inOrder_list : (list items).inOrder = true ↔ ∀ v ∈ items, v.inOrder = true := by
  rw [inOrder]
  induction items with
  | nil => simp [itemsInOrder]
  | cons v rest ih => simp [itemsInOrder, ih]

theorem inOrder_object : (object fields).inOrder = true ↔
    Rising fields ∧ ∀ f ∈ fields, f.2.inOrder = true := by
  rw [inOrder]
  induction fields with
  | nil => simp [fieldsInOrder, Rising]
  | cons f rest ih =>
    unfold Rising at ih
    simp [fieldsInOrder, ih, Rising]
    tauto

theorem Rising.nodup (h : Rising fields) : (fields.map Prod.fst).Nodup := by
  refine List.pairwise_map.mpr (h.imp ?_)
  intro f g hlt heq
  exact String.lt_irrefl g.1 (heq ▸ hlt)

theorem mem_insert {f : String × Json} (h : f ∈ Fields.insert key v fields) :
    f = (key, v) ∨ f ∈ fields := by
  induction fields with
  | nil => exact Or.inl (List.mem_singleton.mp h)
  | cons g rest ih =>
    rw [Fields.insert] at h
    split at h
    · simpa using h
    · split at h
      · rcases List.mem_cons.mp h with rfl | h
        · exact Or.inl rfl
        · exact Or.inr (List.mem_cons_of_mem _ h)
      · rcases List.mem_cons.mp h with rfl | h
        · exact Or.inr List.mem_cons_self
        · exact (ih h).imp_right (List.mem_cons_of_mem _)

theorem Rising.insert (h : Rising fields) (key : String) (v : Json) :
    Rising (Fields.insert key v fields) := by
  induction fields with
  | nil => exact List.pairwise_singleton _ _
  | cons g rest ih =>
    obtain ⟨hfirst, hrest⟩ := List.pairwise_cons.mp h
    rw [Fields.insert]
    split
    next hlt =>
      refine List.pairwise_cons.mpr ⟨fun f hf ↦ ?_, h⟩
      rcases List.mem_cons.mp hf with rfl | hf
      · exact hlt
      · exact String.lt_trans hlt (hfirst f hf)
    next hlt =>
      split
      next heq => exact List.pairwise_cons.mpr ⟨fun f hf ↦ heq ▸ hfirst f hf, hrest⟩
      next hne =>
        have hgt : g.1 < key := by
          refine String.not_le.mp fun hle ↦ hne ?_
          exact String.le_antisymm hle (String.not_lt.mp hlt)
        refine List.pairwise_cons.mpr ⟨fun f hf ↦ ?_, ih hrest⟩
        rcases mem_insert hf with rfl | hf
        · exact hgt
        · exact hfirst f hf

theorem lookup_insert (fields : Fields) (key name : String) (v : Json) :
    (Fields.insert key v fields).lookup name =
      if name = key then some v else fields.lookup name := by
  induction fields with
  | nil =>
    by_cases h : name = key
    · subst h
      rw [if_pos rfl]
      exact List.lookup_cons_self
    · rw [if_neg h]
      exact lookup_cons_of_ne h v []
  | cons g rest ih =>
    rw [Fields.insert]
    by_cases h : name = key
    · subst h
      rw [if_pos rfl] at ih ⊢
      split
      · exact List.lookup_cons_self
      · split
        · exact List.lookup_cons_self
        next hne => rw [lookup_cons_of_ne hne, ih]
    · rw [if_neg h] at ih ⊢
      split
      · exact lookup_cons_of_ne h v _
      · split
        next heq => rw [lookup_cons_of_ne h, lookup_cons_of_ne (heq ▸ h)]
        next => rw [List.lookup_cons, List.lookup_cons, ih]

theorem ofList_append_singleton (entries : Fields) (f : String × Json) :
    Fields.ofList (entries ++ [f]) = Fields.insert f.1 f.2 (Fields.ofList entries) :=
  List.foldl_append

theorem rising_ofList (entries : Fields) : Rising (Fields.ofList entries) := by
  induction entries using List.reverseRecOn with
  | nil => exact List.Pairwise.nil
  | append_singleton entries f ih =>
    rw [ofList_append_singleton]
    exact ih.insert _ _

theorem mem_of_mem_ofList {entries : Fields} {f : String × Json}
    (h : f ∈ Fields.ofList entries) : f ∈ entries := by
  induction entries using List.reverseRecOn with
  | nil => cases h
  | append_singleton entries g ih =>
    rw [ofList_append_singleton] at h
    rcases mem_insert h with rfl | h
    · exact List.mem_append_right _ (List.mem_singleton_self _)
    · exact List.mem_append_left _ (ih h)

theorem inOrder_ofEntries {entries : Fields} (h : ∀ e ∈ entries, e.2.inOrder = true) :
    (ofEntries entries).inOrder = true :=
  inOrder_object.mpr ⟨rising_ofList entries, fun f hf ↦ h f (mem_of_mem_ofList hf)⟩

theorem inOrder_double (x : Float) : (double x).inOrder = true := by
  unfold double
  split <;> rfl

theorem inOrder_option {α : Type} {f : α → Json} {o : Option α}
    (h : ∀ a, o = some a → (f a).inOrder = true) : (Json.option f o).inOrder = true := by
  cases o with
  | none => rfl
  | some a => exact h a rfl

theorem inOrder_entry {α : Type} {key : String} {f : α → Json} {o : Option α}
    (h : ∀ a, o = some a → (f a).inOrder = true) : ∀ e ∈ Json.entry? key f o, e.2.inOrder = true := by
  cases o with
  | none => exact List.forall_mem_nil _
  | some a => exact List.forall_mem_singleton.mpr (h a rfl)

theorem inOrder_map {α : Type} {f : α → Json} (h : ∀ a, (f a).inOrder = true) (as : List α) :
    (list (as.map f)).inOrder = true := by
  refine inOrder_list.mpr fun v hv ↦ ?_
  obtain ⟨a, -, rfl⟩ := List.mem_map.mp hv
  exact h a

theorem lookup_ofList (entries : Fields) (name : String) :
    (Fields.ofList entries).lookup name = entries.reverse.lookup name := by
  induction entries using List.reverseRecOn with
  | nil => rfl
  | append_singleton entries f ih =>
    rw [ofList_append_singleton, lookup_insert, List.reverse_append, ih]
    by_cases h : name = f.1
    · subst h
      rw [if_pos rfl]
      exact List.lookup_cons_self.symm
    · rw [if_neg h]
      exact (lookup_cons_of_ne h f.2 _).symm

theorem insert_last (h : ∀ f ∈ fields, f.1 < key) :
    Fields.insert key v fields = fields ++ [(key, v)] := by
  induction fields with
  | nil => rfl
  | cons f rest ih =>
    obtain ⟨hf, hrest⟩ := List.forall_mem_cons.mp h
    have hne : key ≠ f.1 := fun heq ↦ String.lt_irrefl key (heq ▸ hf)
    rw [Fields.insert, if_neg (String.lt_asymm hf), if_neg hne, ih hrest]
    rfl

theorem ofList_of_rising (h : Rising fields) : Fields.ofList fields = fields := by
  induction fields using List.reverseRecOn with
  | nil => rfl
  | append_singleton rest f ih =>
    obtain ⟨hrest, -, hlast⟩ := List.pairwise_append.mp h
    rw [ofList_append_singleton, ih hrest]
    exact insert_last fun g hg ↦ hlast g hg f (List.mem_singleton_self f)

theorem mem_of_lookup (h : fields.lookup name = some v) : (name, v) ∈ fields := by
  obtain ⟨before, after, rfl, -⟩ := List.lookup_eq_some_iff.mp h
  exact List.mem_append_right _ List.mem_cons_self

/-- Fields in rising order are told by what is under each name. -/
theorem Rising.ext {fields' : Fields} (h : Rising fields) (h' : Rising fields')
    (hlookup : ∀ name, fields.lookup name = fields'.lookup name) : fields = fields' := by
  -- sorted lists with the same members are the same, and no key is there twice
  refine List.Perm.eq_of_pairwise (fun f g _ _ hfg hgf ↦ absurd hfg (String.lt_asymm hgf)) h h' ?_
  refine (List.perm_ext_iff_of_nodup h.nodup.of_map h'.nodup.of_map).mpr fun f ↦ ⟨fun hf ↦ ?_, fun hf ↦ ?_⟩
  · exact mem_of_lookup ((hlookup f.1).symm.trans (lookup_of_mem h.nodup hf))
  · exact mem_of_lookup ((hlookup f.1).trans (lookup_of_mem h'.nodup hf))

theorem draftItems_eq (items : List Json) : draftItems items = items.map draft := by
  induction items with
  | nil => rfl
  | cons v rest ih => rw [draftItems, ih, List.map_cons]

theorem draftFields_eq (fields : Fields) :
    draftFields fields = fields.map fun f ↦ (f.1, f.2.draft) := by
  induction fields with
  | nil => rfl
  | cons f rest ih => rw [draftFields, ih, List.map_cons]

theorem exists_of_mem_right {α β : Type} {R : α → β → Prop} {as : List α} {bs : List β}
    (h : List.Forall₂ R as bs) {b : β} (hb : b ∈ bs) : ∃ a ∈ as, R a b := by
  induction h with
  | nil => cases hb
  | cons hr _ ih =>
    rcases List.mem_cons.mp hb with rfl | hb
    · exact ⟨_, List.mem_cons_self, hr⟩
    · obtain ⟨a, ha, hab⟩ := ih hb
      exact ⟨a, List.mem_cons_of_mem _ ha, hab⟩

theorem itemValues_ok {ds : List Draft} {values : List Json} :
    Draft.itemValues ds = .ok values ↔ List.Forall₂ (fun d v ↦ d.value = .ok v) ds values := by
  induction ds generalizing values with
  | nil => cases values <;> simp [Draft.itemValues]
  | cons d rest ih =>
    rw [Draft.itemValues]
    cases hd : d.value with
    | error f => cases values <;> simp [hd]
    | ok v =>
      cases hrest : Draft.itemValues rest with
      | error f => cases values <;> simp [Except.map, hd, ← ih, hrest]
      | ok vs => cases values <;> simp [Except.map, hd, ← ih, hrest]

theorem entryValues_ok {entries : List (String × Draft)} {values : Fields} :
    Draft.entryValues entries = .ok values ↔
      List.Forall₂ (fun e f ↦ e.1 = f.1 ∧ e.2.value = .ok f.2) entries values := by
  induction entries generalizing values with
  | nil => cases values <;> simp [Draft.entryValues]
  | cons e rest ih =>
    rw [Draft.entryValues]
    cases he : e.2.value with
    | error f => cases values <;> simp [he]
    | ok v =>
      cases hrest : Draft.entryValues rest with
      | error f => cases values <;> simp [Except.map, he, ← ih, hrest]
      | ok vs => cases values <;> simp [Except.map, he, ← ih, hrest, Prod.ext_iff]

theorem entryValues_filter {entries : List (String × Draft)} {values : Fields}
    (h : Draft.entryValues entries = .ok values) (p : String → Bool) :
    Draft.entryValues (entries.filter fun e ↦ p e.1) = .ok (values.filter fun f ↦ p f.1) := by
  rw [entryValues_ok] at h ⊢
  induction h with
  | nil => exact List.Forall₂.nil
  | cons hentry _ ih =>
    rw [List.filter_cons, List.filter_cons, hentry.1]
    split
    · exact List.Forall₂.cons hentry ih
    · exact ih

theorem value_list {ds : List Draft} {fault : Option Broken} :
    (Draft.list ds fault).value = .ok v ↔
      fault = none ∧ ∃ values, v = .list values ∧ Draft.itemValues ds = .ok values := by
  cases hvalues : Draft.itemValues ds with
  | error f => simp [Draft.value, hvalues]
  | ok values =>
    cases fault with
    | none => simp [Draft.value, hvalues, eq_comm]
    | some b => simp [Draft.value, hvalues]

theorem value_object {entries : List (String × Draft)} {fault : Option Broken} :
    (Draft.object entries fault).value = .ok v ↔ fault = none ∧
      ∃ values, v = .object (Fields.ofList values) ∧ Draft.entryValues entries = .ok values := by
  cases hvalues : Draft.entryValues entries with
  | error f => simp [Draft.value, hvalues]
  | ok values =>
    cases fault with
    | none => simp [Draft.value, hvalues, eq_comm]
    | some b => simp [Draft.value, hvalues]

theorem value_draft (h : v.inOrder = true) : v.draft.value = .ok v := by
  induction v using ind with
  | null => rfl
  | bool b => rfl
  | number n => rfl
  | text s => rfl
  | list items ih =>
    rw [inOrder_list] at h
    refine value_list.mpr ⟨rfl, items, rfl, itemValues_ok.mpr ?_⟩
    rw [draftItems_eq, List.forall₂_map_left_iff]
    exact List.forall₂_same.mpr fun v hv ↦ ih v hv (h v hv)
  | object fields ih =>
    obtain ⟨hrising, hvalues⟩ := inOrder_object.mp h
    refine value_object.mpr ⟨rfl, fields, by rw [ofList_of_rising hrising], entryValues_ok.mpr ?_⟩
    rw [draftFields_eq, List.forall₂_map_left_iff]
    exact List.forall₂_same.mpr fun f hf ↦ ⟨rfl, ih f hf (hvalues f hf)⟩

theorem inOrder_of_value {d : Draft} (h : d.value = .ok v) : v.inOrder = true := by
  induction d using Draft.ind generalizing v with
  | list ds fault ih =>
    obtain ⟨-, values, rfl, hvalues⟩ := value_list.mp h
    rw [inOrder_list]
    rw [itemValues_ok] at hvalues
    intro v hv
    obtain ⟨d, hd, hdv⟩ := exists_of_mem_right hvalues hv
    exact ih d hd hdv
  | object entries fault ih =>
    obtain ⟨-, values, rfl, hvalues⟩ := value_object.mp h
    rw [entryValues_ok] at hvalues
    refine inOrder_object.mpr ⟨rising_ofList values, fun f hf ↦ ?_⟩
    obtain ⟨e, he, -, hef⟩ := exists_of_mem_right hvalues (mem_of_mem_ofList hf)
    exact ih e he hef
  | null => cases h; rfl
  | bool b => cases h; rfl
  | number n => cases h; rfl
  | text s => cases h; rfl
  | valueless f kind => cases h
  | deep d => cases h
  | broken b kind => cases h

theorem within_draft (v : Json) (k : ℕ) : v.draft.within k = v.within k := by
  induction v using ind generalizing k with
  | list items ih =>
    cases k with
    | zero => rfl
    | succ k =>
      rw [draft, draftItems_eq, Draft.within, Json.within, List.all_map]
      refine Bool.eq_iff_iff.mpr ?_
      simp only [List.all_eq_true, Function.comp_apply]
      exact forall₂_congr fun v hv ↦ by rw [ih v hv k]
  | object fields ih =>
    cases k with
    | zero => rfl
    | succ k =>
      rw [draft, draftFields_eq, Draft.within, Json.within, List.all_map]
      refine Bool.eq_iff_iff.mpr ?_
      simp only [List.all_eq_true, Function.comp_apply]
      exact forall₂_congr fun f hf ↦ by rw [ih f hf k]
  | _ => cases k <;> rfl

theorem within_mono {m : ℕ} (hk : k ≤ m) (h : v.within k = true) : v.within m = true := by
  induction v using ind generalizing k m with
  | list items ih =>
    cases k with
    | zero => cases h
    | succ k =>
      obtain ⟨m, rfl⟩ := Nat.exists_eq_succ_of_ne_zero (Nat.ne_zero_of_lt hk)
      rw [Json.within, List.all_eq_true] at h ⊢
      exact fun v hv ↦ ih v hv (Nat.le_of_succ_le_succ hk) (h v hv)
  | object fields ih =>
    cases k with
    | zero => cases h
    | succ k =>
      obtain ⟨m, rfl⟩ := Nat.exists_eq_succ_of_ne_zero (Nat.ne_zero_of_lt hk)
      rw [Json.within, List.all_eq_true] at h ⊢
      exact fun f hf ↦ ih f hf (Nat.le_of_succ_le_succ hk) (h f hf)
  | _ => cases m <;> rfl

theorem exists_within_all {vs : List Json} (h : ∀ v ∈ vs, ∃ k, v.within k = true) :
    ∃ k, ∀ v ∈ vs, v.within k = true := by
  induction vs with
  | nil => exact ⟨0, List.forall_mem_nil _⟩
  | cons v rest ih =>
    rw [List.forall_mem_cons] at h
    obtain ⟨⟨k, hk⟩, hrest⟩ := h
    obtain ⟨m, hm⟩ := ih hrest
    refine ⟨max k m, List.forall_mem_cons.mpr ⟨within_mono (Nat.le_max_left k m) hk, ?_⟩⟩
    exact fun w hw ↦ within_mono (Nat.le_max_right k m) (hm w hw)

theorem exists_within (v : Json) : ∃ k, v.within k = true := by
  induction v using ind with
  | list items ih =>
    obtain ⟨k, hk⟩ := exists_within_all ih
    exact ⟨k + 1, List.all_eq_true.mpr hk⟩
  | object fields ih =>
    obtain ⟨k, hk⟩ := exists_within_all (List.forall_mem_map.mpr ih)
    exact ⟨k + 1, List.all_eq_true.mpr (List.forall_mem_map.mp hk)⟩
  | _ => exact ⟨0, rfl⟩

theorem within_of_value {d : Draft} (h : d.value = .ok v) (hd : d.within k = true) :
    v.within k = true := by
  induction d using Draft.ind generalizing v k with
  | list ds fault ih =>
    obtain ⟨-, values, rfl, hvalues⟩ := value_list.mp h
    rw [itemValues_ok] at hvalues
    cases k with
    | zero => cases hd
    | succ k =>
      rw [Draft.within, List.all_eq_true] at hd
      rw [Json.within, List.all_eq_true]
      intro v hv
      obtain ⟨d, hmem, hdv⟩ := exists_of_mem_right hvalues hv
      exact ih d hmem hdv (hd d hmem)
  | object entries fault ih =>
    obtain ⟨-, values, rfl, hvalues⟩ := value_object.mp h
    rw [entryValues_ok] at hvalues
    cases k with
    | zero => cases hd
    | succ k =>
      rw [Draft.within, List.all_eq_true] at hd
      rw [Json.within, List.all_eq_true]
      intro f hf
      obtain ⟨e, hmem, -, hef⟩ := exists_of_mem_right hvalues (mem_of_mem_ofList hf)
      exact ih e hmem hef (hd e hmem)
  | null => cases h; cases k <;> rfl
  | bool b => cases h; cases k <;> rfl
  | number n => cases h; cases k <;> rfl
  | text s => cases h; cases k <;> rfl
  | valueless f kind => cases h
  | deep d => cases h
  | broken b kind => cases h

end FleetControl.Json
