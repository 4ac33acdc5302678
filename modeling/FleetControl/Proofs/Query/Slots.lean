import FleetControl.Query.Statement
import Mathlib.Data.List.Basic
import Mathlib.Tactic.Common

namespace FleetControl.Query

/-- A placeholder in a text: what stands before it, and the digits behind its mark. -/
structure Slot where
  before : List Char
  digits : List Char

inductive Role where
  | start
  | finish
  | shape
  | distance
  | entity
  | limit
deriving DecidableEq

namespace Role

def all : List Role := [.start, .finish, .shape, .distance, .entity, .limit]

/-- The text right before a placeholder of this role that has the number `n`. -/
def lead? (t : Table) (n : ℕ) : Role → Option String
  | .start => some (t.timestamp ++ " BETWEEN ")
  | .finish => some (t.timestamp ++ " BETWEEN " ++ Condition.placeholder (n - 1) ++ " AND ")
  | .shape => some "ST_GeomFromGeoJSON("
  | .distance =>
    some ("ST_DWithin(" ++ t.geometry ++ "::geography, " ++ Condition.shapeText (n - 1)
      ++ "::geography, ")
  | .entity => t.entity.map fun column ↦ column ++ " = "
  | .limit => some " LIMIT "

end Role

namespace Slot

def text (s : Slot) : String := "$" ++ String.ofList s.digits

def number (s : Slot) : ℕ := Nat.ofDigitChars 10 s.digits 0

def roles (t : Table) (s : Slot) : List Role :=
  Role.all.filter fun r ↦ (r.lead? t s.number).any fun lead ↦ lead.toList.isSuffixOf s.before

end Slot

def slotsAfter (before : List Char) : List Char → List Slot
  | [] => []
  | c :: cs =>
    if c = '$' then ⟨before, cs.takeWhile Char.isDigit⟩ :: slotsAfter (before ++ [c]) cs
    else slotsAfter (before ++ [c]) cs

def slots (statement : String) : List Slot := slotsAfter [] statement.toList

section Leads

variable {t : Table} {r : Role} {n : ℕ} {lead : String}

def Role.ending : Role → List Char
  | .start => ['N', ' ']
  | .finish => ['D', ' ']
  | .shape => ['N', '(']
  | .distance => [',', ' ']
  | .entity => ['=', ' ']
  | .limit => ['T', ' ']

theorem Role.ending_suffix (h : r.lead? t n = some lead) : r.ending <:+ lead.toList := by
  have hback : ∀ {ending : List Char} {a b : String},
      ending <:+ b.toList → ending <:+ (a ++ b).toList := by
    intro ending a b hb
    rw [String.toList_append]
    exact hb.trans (List.suffix_append _ _)
  cases r with
  | start => cases h; exact hback (by decide)
  | finish => cases h; exact hback (by decide)
  | shape => cases h; decide
  | distance => cases h; exact hback (by decide)
  | entity =>
    obtain ⟨column, -, rfl⟩ := Option.map_eq_some_iff.mp h
    exact hback (by decide)
  | limit => cases h; decide

theorem Role.eq_of_ending_suffix {r' : Role} {before : List Char} (h : r.ending <:+ before)
    (h' : r'.ending <:+ before) : r = r' := by
  -- All endings are of one length, so that one of two that end the same text is the other.
  have hlength : r.ending.length = r'.ending.length := by cases r <;> cases r' <;> rfl
  have heq : r.ending = r'.ending :=
    (List.suffix_of_suffix_length_le h h' (Nat.le_of_eq hlength)).eq_of_length hlength
  cases r <;> cases r' <;> first | rfl | exact absurd heq (by decide)

theorem Slot.roles_eq {s : Slot} (h : r.lead? t s.number = some lead)
    (hbefore : lead.toList <:+ s.before) : s.roles t = [r] := by
  have hr : r.ending <:+ s.before := (Role.ending_suffix h).trans hbefore
  have hone : Role.all.filter (· = r) = [r] := by cases r <;> rfl
  rw [Slot.roles, ← hone]
  refine List.filter_congr fun r' _ ↦ ?_
  rw [Bool.eq_iff_iff, decide_eq_true_iff, Option.any_eq_true]
  constructor
  · rintro ⟨lead', h', hbefore'⟩
    have hr' := (Role.ending_suffix h').trans (List.isSuffixOf_iff_suffix.mp hbefore')
    exact Role.eq_of_ending_suffix hr' hr
  · rintro rfl
    exact ⟨lead, h, List.isSuffixOf_iff_suffix.mpr hbefore⟩

end Leads

def Slot.mark (t : Table) (s : Slot) : String × List Role := (s.text, s.roles t)

def numbered (n : ℕ) (roles : List Role) : List (String × List Role) :=
  (roles.zipIdx n).map fun x ↦ (Condition.placeholder x.2, [x.1])

theorem numbered_append (n : ℕ) (roles more : List Role) :
    numbered n (roles ++ more) = numbered n roles ++ numbered (n + roles.length) more := by
  rw [numbered, List.zipIdx_append, List.map_append]
  rfl

theorem numbered_texts (n : ℕ) (roles : List Role) :
    (numbered n roles).map Prod.fst = (List.range' n roles.length).map Condition.placeholder := by
  rw [numbered, List.map_map, ← List.zipIdx_map_snd, List.map_map]
  rfl

theorem numbered_roles (n : ℕ) (roles : List Role) :
    (numbered n roles).map Prod.snd = roles.map fun r ↦ [r] := by
  have hfst : (roles.zipIdx n).map Prod.fst = roles := List.zipIdx_map_fst n roles
  rw [numbered, List.map_map]
  nth_rewrite 2 [← hfst]
  rw [List.map_map]
  rfl

def Plain (s : String) : Prop := '$' ∉ s.toList

instance (s : String) : Decidable (Plain s) :=
  inferInstanceAs (Decidable (¬_))

theorem plain_append {a b : String} : Plain (a ++ b) ↔ Plain a ∧ Plain b := by
  simp [Plain, not_or]

theorem Plain.intercalate {m : String} (hm : Plain m) {texts : List String}
    (h : ∀ s ∈ texts, Plain s) : Plain (m.intercalate texts) := by
  induction texts with
  | nil => rw [String.intercalate_nil]; decide
  | cons s texts ih =>
    rw [List.forall_mem_cons] at h
    cases texts with
    | nil => rw [String.intercalate_singleton]; exact h.1
    | cons s' texts =>
      rw [String.intercalate_cons_cons]
      exact plain_append.mpr ⟨plain_append.mpr ⟨h.1, hm⟩, ih h.2⟩

/-- A text that does not carry on the digits of a number before it. -/
def Breaks (s : String) : Prop := s.toList.head?.any Char.isDigit = false

instance (s : String) : Decidable (Breaks s) :=
  inferInstanceAs (Decidable (_ = _))

theorem Breaks.append {a b : String} (ha : Breaks a) (hb : Breaks b) : Breaks (a ++ b) := by
  unfold Breaks at *
  rw [String.toList_append, List.head?_append]
  cases h : a.toList.head? <;> simp_all

theorem Breaks.append_of_ne {a : String} (ha : Breaks a) (hne : a ≠ "") (b : String) :
    Breaks (a ++ b) := by
  unfold Breaks at *
  obtain ⟨c, cs, hcs⟩ := List.exists_cons_of_ne_nil (String.toList_eq_nil_iff.not.mpr hne)
  rw [hcs] at ha
  rw [String.toList_append, hcs]
  exact ha

theorem breaks_placeholder (n : ℕ) : Breaks (Condition.placeholder n) :=
  Breaks.append_of_ne (by decide) (by decide) _

/-- These placeholders are read off a text that stands between two others. -/
def Shows (t : Table) (before : List Char) (text : String) (marks : List (String × List Role)) :
    Prop :=
  ∀ rest, Breaks rest → (slotsAfter before (text ++ rest).toList).map (Slot.mark t) =
    marks ++ (slotsAfter (before ++ text.toList) rest.toList).map (Slot.mark t)

theorem slotsAfter_plain {a : List Char} (ha : '$' ∉ a) (before rest : List Char) :
    slotsAfter before (a ++ rest) = slotsAfter (before ++ a) rest := by
  induction a generalizing before with
  | nil => rw [List.nil_append, List.append_nil]
  | cons c a ih =>
    rw [List.mem_cons, not_or] at ha
    rw [List.cons_append, slotsAfter, if_neg (Ne.symm ha.1), ih ha.2, List.append_assoc]
    rfl

theorem toList_number (n : ℕ) : (toString n).toList = Nat.toDigits 10 n := by simp

theorem slotsAfter_placeholder (n : ℕ) (before : List Char) {rest : String} (hrest : Breaks rest) :
    slotsAfter before ((Condition.placeholder n).toList ++ rest.toList) =
      ⟨before, Nat.toDigits 10 n⟩ ::
        slotsAfter (before ++ (Condition.placeholder n).toList) rest.toList := by
  have hdigits : ∀ c ∈ Nat.toDigits 10 n, c.isDigit = true :=
    fun c hc ↦ Nat.isDigit_of_mem_toDigits (by decide) (by decide) hc
  have hmark : '$' ∉ Nat.toDigits 10 n := fun h ↦ absurd (hdigits _ h) (by decide)
  have htake : (Nat.toDigits 10 n ++ rest.toList).takeWhile Char.isDigit = Nat.toDigits 10 n := by
    have hnone : rest.toList.takeWhile Char.isDigit = [] := by
      unfold Breaks at hrest
      cases h : rest.toList with
      | nil => rfl
      | cons c cs =>
        rw [h, List.head?_cons, Option.any_some] at hrest
        rw [List.takeWhile_cons, hrest]
        rfl
    rw [List.takeWhile_append_of_pos hdigits, hnone, List.append_nil]
  have htext : (Condition.placeholder n).toList = '$' :: Nat.toDigits 10 n := by
    rw [Condition.placeholder, String.toList_append, toList_number]
    rfl
  rw [htext, List.cons_append, slotsAfter, if_pos rfl, htake, slotsAfter_plain hmark,
    List.append_assoc]
  rfl

namespace Shows

variable {t : Table} {before : List Char} {a b lead : String} {r : Role} {n : ℕ}
  {marks more : List (String × List Role)}

theorem nil : Shows t before "" [] := by
  intro rest hrest
  simp

theorem plain_append (ha : Plain a) (h : Shows t (before ++ a.toList) b marks) :
    Shows t before (a ++ b) marks := by
  intro rest hrest
  rw [String.append_assoc, String.toList_append, slotsAfter_plain ha, h rest hrest,
    String.toList_append, List.append_assoc]

theorem plain (ha : Plain a) : Shows t before a [] := by
  simpa using plain_append ha (nil (t := t))

theorem append (h : Shows t before a marks) (hb : Breaks b)
    (h' : Shows t (before ++ a.toList) b more) : Shows t before (a ++ b) (marks ++ more) := by
  intro rest hrest
  rw [String.append_assoc, h _ (hb.append hrest), h' rest hrest, String.toList_append,
    List.append_assoc, List.append_assoc]

theorem append_plain (h : Shows t before a marks) (hb : Breaks b) (hp : Plain b) :
    Shows t before (a ++ b) marks := by
  simpa using h.append hb (plain hp)

theorem placeholder (hlead : r.lead? t n = some lead) (h : lead.toList <:+ before) :
    Shows t before (Condition.placeholder n) [(Condition.placeholder n, [r])] := by
  intro rest hrest
  have hnumber : Slot.number ⟨before, Nat.toDigits 10 n⟩ = n :=
    Nat.ofDigitChars_toDigits (by decide) (by decide)
  have htext : Slot.text ⟨before, Nat.toDigits 10 n⟩ = Condition.placeholder n := by
    rw [Slot.text, ← toList_number, String.ofList_toList]
    rfl
  have hroles : Slot.roles t ⟨before, Nat.toDigits 10 n⟩ = [r] :=
    Slot.roles_eq (hnumber.symm ▸ hlead) h
  rw [String.toList_append, slotsAfter_placeholder n before hrest, List.map_cons, Slot.mark, htext,
    hroles]
  rfl

theorem append_placeholder (h : Shows t before a marks) (hlead : r.lead? t n = some lead)
    (hbefore : lead.toList <:+ before ++ a.toList) :
    Shows t before (a ++ Condition.placeholder n) (marks ++ [(Condition.placeholder n, [r])]) :=
  h.append (breaks_placeholder n) (placeholder hlead hbefore)

end Shows

end FleetControl.Query
