import FleetControl.Proofs.Query.Whitelist
import FleetControl.Proofs.Query.Words

namespace FleetControl.Query

def fixedPieces : List String :=
  ["SELECT ", "ST_AsGeoJSON(", ")::jsonb AS ", ", ", " FROM ", " WHERE ", " BETWEEN ", " AND ", "$",
    "ST_DWithin(", "ST_Intersects(", "ST_Within(", "ST_SetSRID(ST_GeomFromGeoJSON(", "), 4326)",
    "::geography, ", ")", " = ", " ORDER BY ", " ", "ASC", "DESC", " LIMIT "]

/-- Texts made of fixed pieces, numbers and names, with no word over the seam of two pieces. -/
inductive Made (names : List String) : List Char → Prop
  | nil : Made names []
  | fixed {s : String} : s ∈ fixedPieces → Made names s.toList
  | number (n : ℕ) : Made names (toString n).toList
  | name {s : String} : s ∈ names → Made names s.toList
  | append {cs ds : List Char} : Made names cs → Made names ds →
      cs.getLast?.any Text.isWord = false ∨ ds.head?.any Text.isWord = false →
      Made names (cs ++ ds)

def Opens (m : String) : Prop :=
  m ∈ fixedPieces ∧ m.toList.getLast?.map Text.isWord = some false

def Splits (m : String) : Prop :=
  Opens m ∧ m.toList.head?.map Text.isWord = some false

instance (m : String) : Decidable (Opens m) :=
  inferInstanceAs (Decidable (_ ∧ _))

instance (m : String) : Decidable (Splits m) :=
  inferInstanceAs (Decidable (_ ∧ _))

section Seams

variable {names : List String} {a b m : String}

theorem Opens.append (hm : Opens m) (hb : Made names b.toList) : Made names (m ++ b).toList := by
  obtain ⟨c, hc, hw⟩ := Option.map_eq_some_iff.mp hm.2
  rw [String.toList_append]
  exact .append (.fixed hm.1) hb (Or.inl (by simp [hc, hw]))

theorem Splits.after (hm : Splits m) (ha : Made names a.toList) : Made names (a ++ m).toList := by
  obtain ⟨c, hc, hw⟩ := Option.map_eq_some_iff.mp hm.2
  rw [String.toList_append]
  exact .append ha (.fixed hm.1.1) (Or.inr (by simp [hc, hw]))

theorem Splits.between (hm : Splits m) (ha : Made names a.toList) (hb : Made names b.toList) :
    Made names (a ++ m ++ b).toList := by
  obtain ⟨c, hc, hw⟩ := Option.map_eq_some_iff.mp hm.2
  rw [String.append_assoc, String.toList_append]
  refine .append ha (hm.1.append hb) (Or.inr ?_)
  rw [String.toList_append, List.head?_append, hc, Option.some_or, Option.any_some, hw]

theorem Splits.intercalate (hm : Splits m) {texts : List String}
    (h : ∀ s ∈ texts, Made names s.toList) : Made names (m.intercalate texts).toList := by
  induction texts with
  | nil => exact .nil
  | cons s texts ih =>
    rw [List.forall_mem_cons] at h
    cases texts with
    | nil => rw [String.intercalate_singleton]; exact h.1
    | cons s' texts =>
      rw [String.intercalate_cons_cons]
      exact hm.between h.1 (ih h.2)

end Seams

variable {α : Type} {names : List String} {t : Table}

theorem made_placeholder (n : ℕ) : Made names (Condition.placeholder n).toList :=
  Opens.append (by decide) (.number n)

theorem made_shapeText (n : ℕ) : Made names (Condition.shapeText n).toList :=
  Splits.after (by decide) (Opens.append (by decide) (made_placeholder n))

theorem Condition.made_text (n : ℕ) (c : Condition α) (h : c.column ∈ names) :
    Made names (c.text n).toList := by
  have hn : ∀ n, Made names (placeholder n).toList := made_placeholder
  have hs : Made names (shapeText n).toList := made_shapeText n
  cases c with
  | between column low high =>
    exact Splits.between (by decide) (Splits.between (by decide) (.name h) (hn n)) (hn (n + 1))
  | near column shape distance =>
    have hcolumn : Made names ("ST_DWithin(" ++ column).toList := Opens.append (by decide) (.name h)
    exact Splits.after (by decide)
      (Splits.between (by decide) (Splits.between (by decide) hcolumn hs) (hn (n + 1)))
  | touches column shape =>
    have hcolumn : Made names ("ST_Intersects(" ++ column).toList :=
      Opens.append (by decide) (.name h)
    exact Splits.after (by decide) (Splits.between (by decide) hcolumn hs)
  | inside column shape =>
    have hcolumn : Made names ("ST_Within(" ++ column).toList := Opens.append (by decide) (.name h)
    exact Splits.after (by decide) (Splits.between (by decide) hcolumn hs)
  | equals column value => exact Splits.between (by decide) (.name h) (hn n)

theorem Condition.made_texts (n : ℕ) {cs : List (Condition α)} (h : ∀ c ∈ cs, c.column ∈ names) :
    ∀ s ∈ texts n cs, Made names s.toList := by
  induction cs generalizing n with
  | nil => simp [texts]
  | cons c cs ih =>
    rw [List.forall_mem_cons] at h
    rw [texts, List.forall_mem_cons]
    exact ⟨c.made_text n h.1, ih _ h.2⟩

theorem Column.made_item (c : Column) (h : c.name ∈ names) : Made names c.item.toList := by
  unfold Column.item
  split
  · exact Splits.between (by decide) (Opens.append (by decide) (.name h)) (.name h)
  · exact .name h

theorem Ordering.made_text (o : Ordering) (h : o.column ∈ names) : Made names o.text.toList := by
  have hd : Made names o.direction.keyword.toList := by
    cases o.direction <;> exact .fixed (by decide)
  exact Splits.between (by decide) (.name h) hd

namespace Statement

variable {s : Statement α}

theorem made_whereText {before : String} (h : ∀ c ∈ s.conditions, c.column ∈ names)
    (hbefore : Made names before.toList) : Made names (before ++ s.whereText).toList := by
  unfold whereText
  split
  · rwa [String.append_empty]
  · rw [← String.append_assoc]
    exact Splits.between (by decide) hbefore
      (Splits.intercalate (by decide) (Condition.made_texts 1 h))

theorem made_orderText {before : String} (h : ∀ o ∈ s.ordering, o.column ∈ names)
    (hbefore : Made names before.toList) : Made names (before ++ s.orderText).toList := by
  unfold orderText
  split
  · rwa [String.append_empty]
  · rw [← String.append_assoc]
    exact Splits.between (by decide) hbefore
      (Splits.intercalate (by decide) (List.forall_mem_map.mpr fun o ho ↦ o.made_text (h o ho)))

theorem Declared.made (h : s.Declared t) : Made (t.name :: t.names) s.text.toList := by
  have hcolumns : ∀ name ∈ t.names, name ∈ t.name :: t.names :=
    fun _ hn ↦ List.mem_cons_of_mem _ hn
  have hitems : ∀ text ∈ s.columns.map Column.item, Made (t.name :: t.names) text.toList :=
    List.forall_mem_map.mpr fun c hc ↦
      c.made_item (hcolumns _ (Table.name_mem_names (h.columns c hc)))
  have hselect : Made (t.name :: t.names)
      ("SELECT " ++ ", ".intercalate (s.columns.map Column.item)).toList :=
    Opens.append (by decide) (Splits.intercalate (by decide) hitems)
  have htable : Made (t.name :: t.names) s.table.toList := .name (h.table ▸ List.mem_cons_self)
  have hfrom := Splits.between (m := " FROM ") (by decide) hselect htable
  have hwhere := made_whereText (fun c hc ↦ hcolumns _ (h.conditions c hc)) hfrom
  have horder := made_orderText (fun o ho ↦ hcolumns _ (h.ordering o ho)) hwhere
  exact Splits.between (by decide) horder (made_placeholder _)

end Statement

end FleetControl.Query
