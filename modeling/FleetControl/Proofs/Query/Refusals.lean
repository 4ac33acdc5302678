import FleetControl.Proofs.Query.Words
import FleetControl.Query.Phrase
import Mathlib

namespace FleetControl

namespace Text

theorem toUpper_eq_iff {capital c : Char} (hk : capital.isUpper = true) :
    c.toUpper = capital ↔ c.toLower = capital.toLower := by
  constructor
  · rintro rfl
    exact (Char.toLower_toUpper_eq_toLower c).symm
  · intro h
    rw [← Char.toUpper_toLower_eq_toUpper, h, Char.toUpper_toLower_eq_toUpper]
    exact Char.toUpper_eq_of_not_isLower (Char.not_isLower_of_isUpper hk)

theorem isDigit_of_isBlank {c : Char} (h : isBlank c = true) : isDigit c = false := by
  have happart : ∀ b ∈ blanks, ∀ d ∈ digits, b.2 < d.1 ∨ d.2 < b.1 := by decide +kernel
  obtain ⟨b, hb, hc⟩ := List.any_eq_true.mp h
  simp only [Bool.and_eq_true, decide_eq_true_eq] at hc
  refine List.any_eq_false.mpr fun d hd hin ↦ ?_
  simp only [Bool.and_eq_true, decide_eq_true_eq] at hin
  have := happart b hb d hd
  omega

end Text

namespace Query

namespace Scan

variable {word cs rest : List Char} {k c : Char}

/-- The capitals of which the words of the patterns are made. With the letter K the sign for kelvin
would have to be looked for. -/
def isCapital (k : Char) : Bool := k.isUpper && k != 'K'

theorem isLetter_iff (hk : isCapital k = true) :
    isLetter k c = true ↔ Text.folded c = Text.folded k := by
  obtain ⟨hu, hK⟩ : k.isUpper = true ∧ k ≠ 'K' := by simpa [isCapital] using hk
  have hplain : k ≠ '\u017f' ∧ k ≠ '\u212a' := by
    constructor <;> (rintro rfl; exact absurd hu (by decide))
  have hfolded : Text.folded k = k.toLower := by simp only [Text.folded, hplain, if_false]
  rw [hfolded]
  simp only [isLetter, Bool.or_eq_true, Bool.and_eq_true, beq_iff_eq, Text.folded]
  by_cases hs : c = '\u017f'
  · subst hs
    have hno : ('\u017f' : Char).toUpper ≠ k := fun h ↦ hplain.1 h.symm
    simp only [hno, false_or, and_true, if_true]
    exact eq_comm.trans (Text.toUpper_eq_iff (c := 'S') hu)
  simp only [hs, and_false, or_false, if_false]
  by_cases hkelvin : c = '\u212a'
  · subst hkelvin
    have hno : ('\u212a' : Char).toUpper ≠ k := fun h ↦ hplain.2 h.symm
    simp only [hno, if_true, false_iff]
    exact fun h ↦ hK ((Text.toUpper_eq_iff (c := 'K') hu).mpr h).symm
  · simp only [hkelvin, if_false]
    exact Text.toUpper_eq_iff hu

theorem letters?_eq_some_iff (hw : ∀ k ∈ word, isCapital k = true) :
    letters? word cs = some rest ↔
      ∃ run, cs = run ++ rest ∧ run.map Text.folded = word.map Text.folded := by
  induction word generalizing cs with
  | nil => simp [letters?]
  | cons k word ih =>
    rw [List.forall_mem_cons] at hw
    cases cs with
    | nil =>
      simp only [letters?, List.map_cons, reduceCtorEq, false_iff, not_exists, not_and]
      rintro run hrun
      obtain ⟨rfl, -⟩ := List.append_eq_nil_iff.mp hrun.symm
      simp
    | cons c cs =>
      rw [letters?]
      constructor
      · intro h
        split at h
        case isFalse => cases h
        case isTrue hc =>
          obtain ⟨run, rfl, hrun⟩ := (ih hw.2).mp h
          exact ⟨c :: run, rfl, by rw [List.map_cons, List.map_cons, hrun, (isLetter_iff hw.1).mp hc]⟩
      · rintro ⟨run, hcs, hrun⟩
        cases run with
        | nil => simp at hrun
        | cons d run =>
          obtain ⟨rfl, rfl⟩ := List.cons_eq_cons.mp hcs
          obtain ⟨hc, hrun⟩ := List.cons_eq_cons.mp hrun
          rw [if_pos ((isLetter_iff hw.1).mpr hc)]
          exact (ih hw.2).mpr ⟨run, rfl, hrun⟩

theorem isWord_of_spelled {run : List Char} (hw : ∀ k ∈ word, isCapital k = true)
    (h : run.map Text.folded = word.map Text.folded) : ∀ c ∈ run, Text.isWord c = true := by
  have hupper : ∀ k ∈ word, k.isUpper = true := fun k hk ↦ (Bool.and_eq_true_iff.mp (hw k hk)).1
  have hread : letters? word run = some [] :=
    (letters?_eq_some_iff hw).mpr ⟨run, (List.append_nil run).symm, h⟩
  obtain ⟨run', hrun, -, hall⟩ := letters?_eq_some hupper hread
  rwa [hrun, List.append_nil]

theorem endsWord_iff : endsWord cs = true ↔ cs.head?.any Text.isWord = false := by
  cases cs <;> simp [endsWord]

end Scan

namespace Phrase

open Scan

variable {p : Phrase} {ps qs : List Phrase} {q r : List Char → Bool} {before cs : List Char}
  {f : Char → Bool} {c : Char} {w : String}

@[simp] theorem begins_nil : (inTurn []).Begins before cs :=
  ⟨[], cs, rfl, rfl⟩

theorem begins_cons : (inTurn (p :: ps)).Begins before cs ↔
    ∃ run rest, cs = run ++ rest ∧ p before run rest ∧ (inTurn ps).Begins (before ++ run) rest := by
  constructor
  · rintro ⟨_, behind, rfl, first, last, rfl, hp, hps⟩
    exact ⟨first, last ++ behind, List.append_assoc _ _ _, hp, last, behind, rfl, hps⟩
  · rintro ⟨run, _, rfl, hp, last, behind, rfl, hps⟩
    exact ⟨run ++ last, behind, (List.append_assoc _ _ _).symm, run, last, rfl, hp, hps⟩

theorem begins_flatten : (inTurn (inTurn ps :: qs)).Begins before cs ↔
    (inTurn (ps ++ qs)).Begins before cs := by
  induction ps generalizing before cs with
  | nil =>
    simp only [begins_cons, List.nil_append]
    constructor
    · rintro ⟨_, rest, rfl, rfl, h⟩
      simpa using h
    · intro h
      exact ⟨[], cs, rfl, rfl, by simpa using h⟩
  | cons p ps ih =>
    rw [List.cons_append, begins_cons, begins_cons]
    constructor
    · rintro ⟨_, rest, rfl, ⟨first, last, rfl, hp, hps⟩, hqs⟩
      refine ⟨first, last ++ rest, List.append_assoc _ _ _, hp, ih.mp ?_⟩
      exact begins_cons.mpr ⟨last, rest, rfl, hps, by rwa [List.append_assoc]⟩
    · rintro ⟨first, _, rfl, hp, h⟩
      obtain ⟨last, rest, rfl, hps, hqs⟩ := begins_cons.mp (ih.mpr h)
      exact ⟨first ++ last, rest, (List.append_assoc _ _ _).symm, ⟨first, last, rfl, hp, hps⟩,
        by rwa [← List.append_assoc]⟩

theorem begins_boundary : (inTurn (boundary :: ps)).Begins before cs ↔
    before.getLast?.any Text.isWord ≠ cs.head?.any Text.isWord ∧ (inTurn ps).Begins before cs := by
  rw [begins_cons]
  constructor
  · rintro ⟨_, rest, rfl, ⟨rfl, hne⟩, h⟩
    exact ⟨hne, by simpa using h⟩
  · rintro ⟨hne, h⟩
    exact ⟨[], cs, rfl, ⟨rfl, hne⟩, by simpa using h⟩

/-- The test tells where the phrase begins, whatever stands before it. -/
def Decides (q : List Char → Bool) (p : Phrase) : Prop :=
  ∀ before cs, p.Begins before cs ↔ q cs = true

/-- The test is never passed by a text that begins with a character of a class. -/
def Avoids (q : List Char → Bool) (f : Char → Bool) : Prop :=
  ∀ c cs, f c = true → q (c :: cs) = false

def IsCapitals (w : String) : Bool := !w.toList.isEmpty && w.toList.all isCapital

theorem dropWhile_of_avoids (hq : Avoids q f) (h : q cs = true) : cs.dropWhile f = cs := by
  cases cs with
  | nil => rfl
  | cons c cs =>
    cases hc : f c with
    | true => simp [hq c cs hc] at h
    | false => simp [hc]

theorem spells_isWord (hw : IsCapitals w = true) {run behind : List Char}
    (h : letters w before run behind) :
    ∃ first init last, run = first :: init ∧ run.getLast? = some last ∧
      Text.isWord first = true ∧ Text.isWord last = true := by
  obtain ⟨hne, hall⟩ := Bool.and_eq_true_iff.mp hw
  have hword := isWord_of_spelled (List.all_eq_true.mp hall) h
  cases run with
  | nil =>
    have hnil : w.toList = [] := by simpa using (show [].map _ = w.toList.map _ from h).symm
    simp [hnil] at hne
  | cons first init =>
    exact ⟨first, init, _, rfl, List.getLast?_eq_some_getLast (List.cons_ne_nil first init),
      hword first List.mem_cons_self, hword _ (List.getLast_mem _)⟩

theorem decides_nil : Decides (fun _ ↦ true) (inTurn []) :=
  fun _ _ ↦ by simp

theorem decides_last (h : Decides q p) : Decides q (inTurn [p]) := by
  intro before cs
  rw [← h before cs, begins_cons]
  constructor
  · rintro ⟨run, rest, rfl, hp, -⟩
    exact ⟨run, rest, rfl, hp⟩
  · rintro ⟨run, rest, rfl, hp⟩
    exact ⟨run, rest, rfl, hp, begins_nil⟩

theorem decides_letters (hw : IsCapitals w = true) (h : Decides q (inTurn ps)) :
    Decides (fun cs ↦ (letters? w.toList cs).any q) (inTurn (letters w :: ps)) := by
  intro before cs
  have hall := List.all_eq_true.mp (Bool.and_eq_true_iff.mp hw).2
  simp only [begins_cons, h _ _, Option.any_eq_true]
  constructor
  · rintro ⟨run, rest, rfl, hrun, hq⟩
    exact ⟨rest, (letters?_eq_some_iff hall).mpr ⟨run, rfl, hrun⟩, hq⟩
  · rintro ⟨rest, hrest, hq⟩
    obtain ⟨run, rfl, hrun⟩ := (letters?_eq_some_iff hall).mp hrest
    exact ⟨run, rest, rfl, hrun, hq⟩

theorem decides_word (hw : IsCapitals w = true) :
    Decides (fun cs ↦ (word? w.toList cs).isSome) (inTurn [letters w, boundary]) := by
  intro before cs
  have hall := List.all_eq_true.mp (Bool.and_eq_true_iff.mp hw).2
  have hend {run rest : List Char} (hrun : letters w before run rest) :
      (inTurn [boundary]).Begins (before ++ run) rest ↔ endsWord rest = true := by
    obtain ⟨first, init, last, rfl, hlast, -, hl⟩ := spells_isWord hw hrun
    rw [begins_boundary, List.getLast?_append, hlast, Option.some_or, endsWord_iff]
    simp [hl]
  simp only [begins_cons, word?, Option.isSome_iff_exists, Option.filter_eq_some_iff]
  constructor
  · rintro ⟨run, rest, rfl, hrun, h⟩
    exact ⟨rest, (letters?_eq_some_iff hall).mpr ⟨run, rfl, hrun⟩, (hend hrun).mp (begins_cons.mpr h)⟩
  · rintro ⟨rest, hrest, h⟩
    obtain ⟨run, rfl, hrun⟩ := (letters?_eq_some_iff hall).mp hrest
    exact ⟨run, rest, rfl, hrun, begins_cons.mp ((hend hrun).mpr h)⟩

theorem begins_wordStart (hw : IsCapitals w = true) (h : Decides q (inTurn (letters w :: ps))) :
    (inTurn (boundary :: letters w :: ps)).Begins before cs ↔
      (!before.getLast?.any Text.isWord && q cs) = true := by
  rw [begins_boundary, Bool.and_eq_true, ← h before cs, Bool.not_eq_true']
  refine and_congr_left fun hbegins ↦ ?_
  obtain ⟨run, rest, rfl, hrun, -⟩ := begins_cons.mp hbegins
  obtain ⟨first, init, -, rfl, -, hf, -⟩ := spells_isWord hw hrun
  simp [hf]

theorem decides_anyOf (hq : Avoids q f) (h : Decides q (inTurn ps)) :
    Decides (fun cs ↦ q (cs.dropWhile f)) (inTurn (anyOf f :: ps)) := by
  intro before cs
  simp only [begins_cons, h _ _]
  constructor
  · rintro ⟨run, rest, rfl, hrun, hrest⟩
    rwa [List.dropWhile_append_of_pos hrun, dropWhile_of_avoids hq hrest]
  · intro hrest
    exact ⟨cs.takeWhile f, cs.dropWhile f, List.takeWhile_append_dropWhile.symm,
      fun c hc ↦ List.mem_takeWhile_imp hc, hrest⟩

theorem decides_someOf (hq : Avoids q f) (h : Decides q (inTurn ps)) :
    Decides (fun cs ↦ cs.head?.any f && q (cs.dropWhile f)) (inTurn (someOf f :: ps)) := by
  intro before cs
  simp only [begins_cons, h _ _, Bool.and_eq_true]
  constructor
  · rintro ⟨run, rest, rfl, ⟨hne, hrun⟩, hrest⟩
    rw [List.dropWhile_append_of_pos hrun, dropWhile_of_avoids hq hrest]
    obtain ⟨c, run, rfl⟩ := List.exists_cons_of_ne_nil hne
    exact ⟨hrun c List.mem_cons_self, hrest⟩
  · rintro ⟨hhead, hrest⟩
    refine ⟨cs.takeWhile f, cs.dropWhile f, List.takeWhile_append_dropWhile.symm,
      ⟨?_, fun c hc ↦ List.mem_takeWhile_imp hc⟩, hrest⟩
    cases cs with
    | nil => simp at hhead
    | cons c cs => simp [show f c = true by simpa using hhead]

theorem decides_someOf_last : Decides (fun cs ↦ cs.head?.any f) (inTurn [someOf f]) := by
  intro before cs
  simp only [begins_cons]
  constructor
  · rintro ⟨run, rest, rfl, ⟨hne, hrun⟩, -⟩
    obtain ⟨c, run, rfl⟩ := List.exists_cons_of_ne_nil hne
    exact hrun c List.mem_cons_self
  · intro hhead
    cases cs with
    | nil => simp at hhead
    | cons c cs => exact ⟨[c], cs, rfl, ⟨by simp, by simpa using hhead⟩, begins_nil⟩

theorem decides_mark {s : String} (hs : s.toList = [c]) (h : Decides q (inTurn ps)) :
    Decides (fun cs ↦ cs.head? == some c && q cs.tail) (inTurn (mark s :: ps)) := by
  intro before cs
  simp only [begins_cons, h _ _, mark, hs]
  constructor
  · rintro ⟨run, rest, rfl, rfl, hrest⟩
    simpa using hrest
  · intro hcs
    cases cs with
    | nil => simp at hcs
    | cons d cs =>
      obtain ⟨rfl, hrest⟩ : d = c ∧ q cs = true := by simpa using hcs
      exact ⟨[d], cs, rfl, rfl, hrest⟩

theorem decides_none : Decides (fun _ ↦ false) (oneOf []) := by
  intro before cs
  simp [Begins, oneOf]

theorem decides_or (hp : Decides q p) (hps : Decides r (oneOf ps)) :
    Decides (fun cs ↦ q cs || r cs) (oneOf (p :: ps)) := by
  intro before cs
  rw [Bool.or_eq_true, ← hp before cs, ← hps before cs]
  constructor
  · rintro ⟨run, rest, rfl, p', hp', h⟩
    rcases List.mem_cons.mp hp' with rfl | hp'
    · exact Or.inl ⟨run, rest, rfl, h⟩
    · exact Or.inr ⟨run, rest, rfl, p', hp', h⟩
  · rintro (⟨run, rest, rfl, h⟩ | ⟨run, rest, rfl, p', hp', h⟩)
    · exact ⟨run, rest, rfl, p, List.mem_cons_self, h⟩
    · exact ⟨run, rest, rfl, p', List.mem_cons_of_mem p hp', h⟩

theorem Decides.congr (h : Decides q p) (hqr : ∀ cs, q cs = r cs) : Decides r p :=
  fun before cs ↦ by rw [← hqr cs, h before cs]

theorem decides_flatten (h : Decides q (inTurn (ps ++ qs))) : Decides q (inTurn (inTurn ps :: qs)) :=
  fun before cs ↦ begins_flatten.trans (h before cs)

theorem decides_blanks (hq : Avoids q Text.isBlank) (h : Decides q (inTurn ps)) :
    Decides (fun cs ↦ (blanks? cs).any q) (inTurn (blanks :: ps)) := by
  refine (decides_someOf hq h).congr fun cs ↦ ?_
  cases cs with
  | nil => rfl
  | cons c cs => cases hc : Text.isBlank c <;> simp [blanks?, hc]

theorem decides_digits (hq : Avoids q Text.isDigit) (h : Decides q (inTurn ps)) :
    Decides (fun cs ↦ (digits? cs).any q) (inTurn (digits :: ps)) := by
  refine (decides_someOf hq h).congr fun cs ↦ ?_
  cases cs with
  | nil => rfl
  | cons c cs => cases hc : Text.isDigit c <;> simp [digits?, hc]

theorem decides_digits_last : Decides (fun cs ↦ (digits? cs).isSome) (inTurn [digits]) := by
  refine decides_someOf_last.congr fun cs ↦ ?_
  cases cs with
  | nil => rfl
  | cons c cs => cases hc : Text.isDigit c <;> simp [digits?, hc]

theorem decides_equals (hq : Avoids q Text.isBlank) (h : Decides q (inTurn ps)) :
    Decides (fun cs ↦ (equals? cs).any q) (inTurn (equals :: ps)) := by
  have hmark : Avoids (fun cs ↦ cs.head? == some '=' && q (cs.tail.dropWhile Text.isBlank))
      Text.isBlank := by
    intro c cs hc
    have hne : c ≠ '=' := by
      rintro rfl
      exact absurd hc (by decide)
    simp [hne]
  have hparts : Decides _ (inTurn ([spaces, mark "=", spaces] ++ ps)) :=
    decides_anyOf hmark (decides_mark rfl (decides_anyOf hq h))
  refine (decides_flatten hparts).congr fun cs ↦ ?_
  unfold equals?
  split
  case h_1 rest hrest => simp [hrest]
  case h_2 hno =>
    cases hrest : cs.dropWhile Text.isBlank with
    | nil => rfl
    | cons c rest =>
      have hne : c ≠ '=' := fun hc ↦ hno rest (hc ▸ hrest)
      simp [hne]

theorem decides_quoted {quote : Char} (h : Decides q (inTurn ps)) :
    Decides (fun cs ↦ (quoted? quote cs).any q) (inTurn (quoted quote :: ps)) := by
  have hmark : Avoids (fun cs ↦ cs.head? == some quote && q cs.tail) (· != quote) := by
    intro c cs hc
    have hne : c ≠ quote := by simpa using hc
    simp [hne]
  have hsign : (String.singleton quote).toList = [quote] := String.toList_singleton quote
  have hparts : Decides _ (inTurn ([mark (String.singleton quote), anyOf (· != quote),
      mark (String.singleton quote)] ++ ps)) :=
    decides_mark hsign (decides_anyOf hmark (decides_mark hsign h))
  refine (decides_flatten hparts).congr fun cs ↦ ?_
  cases cs with
  | nil => rfl
  | cons c cs =>
    by_cases hc : c = quote
    · subst hc
      cases hrest : cs.dropWhile (· != c) with
      | nil => simp [quoted?, hrest]
      | cons d rest =>
        have hd : d = c := by simpa [hrest] using List.head?_dropWhile_not (· != c) cs
        simp [quoted?, hrest, hd]
    · simp [quoted?, hc]

theorem decides_perhaps (h : Decides q (inTurn qs)) (hps : Decides r (inTurn (ps ++ qs))) :
    Decides (fun cs ↦ q cs || r cs) (inTurn (perhaps ps :: qs)) := by
  intro before cs
  rw [Bool.or_eq_true, ← h before cs, ← hps before cs, ← begins_flatten, begins_cons]
  constructor
  · rintro ⟨run, rest, rfl, ⟨p, hp, hrun⟩, hqs⟩
    rcases List.mem_pair.mp hp with rfl | rfl
    · obtain rfl : run = [] := hrun
      exact Or.inl (by simpa using hqs)
    · exact Or.inr (begins_cons.mpr ⟨run, rest, rfl, hrun, hqs⟩)
  · rintro (hqs | hqs)
    · exact ⟨[], cs, rfl, ⟨inTurn [], by simp, rfl⟩, by simpa using hqs⟩
    · obtain ⟨run, rest, rfl, hrun, hqs⟩ := begins_cons.mp hqs
      exact ⟨run, rest, rfl, ⟨inTurn ps, by simp, hrun⟩, hqs⟩

theorem avoids_letters (hw : IsCapitals w = true) :
    Avoids (fun cs ↦ (letters? w.toList cs).any q) Text.isBlank := by
  intro c cs hc
  obtain ⟨hne, hall⟩ := Bool.and_eq_true_iff.mp hw
  cases hword : w.toList with
  | nil => simp [hword] at hne
  | cons k word =>
    rw [hword, List.all_cons, Bool.and_eq_true] at hall
    have hk : isLetter k c = false := by
      by_contra h
      have hupper := (Bool.and_eq_true_iff.mp hall.1).1
      have hw := isWord_of_isLetter hupper (Bool.not_eq_false _ ▸ h)
      exact absurd hw (by simp [Text.isWord_of_isBlank hc])
    simp [letters?, hk]

theorem avoids_word (hw : IsCapitals w = true) :
    Avoids (fun cs ↦ (word? w.toList cs).isSome) Text.isBlank := by
  intro c cs hc
  simpa only [word?, Option.isSome_filter] using avoids_letters hw (q := endsWord) c cs hc

theorem avoids_digits : Avoids (fun cs ↦ (digits? cs).any q) Text.isBlank :=
  fun c cs hc ↦ by simp [digits?, Text.isDigit_of_isBlank hc]

theorem avoids_digits_last : Avoids (fun cs ↦ (digits? cs).isSome) Text.isBlank :=
  fun c cs hc ↦ by simp [digits?, Text.isDigit_of_isBlank hc]

theorem avoids_equals : Avoids (fun cs ↦ (equals? cs).any q) Text.isDigit := by
  intro c cs hc
  have hblank : Text.isBlank c = false := by
    by_contra h
    exact absurd hc (by simp [Text.isDigit_of_isBlank (Bool.not_eq_false _ ▸ h)])
  have hne : c ≠ '=' := by
    rintro rfl
    exact absurd hc (by decide)
  simp [equals?, hblank, hne]

theorem avoids_quoted {quote : Char} (hquote : Text.isBlank quote = false) :
    Avoids (fun cs ↦ (quoted? quote cs).any q) Text.isBlank := by
  intro c cs hc
  have hne : c ≠ quote := by
    rintro rfl
    exact absurd hc (by simp [hquote])
  simp [quoted?, hne]

theorem avoids_tautology : Avoids isTautology Text.isBlank := by
  intro c cs hc
  simp only [isTautology, Option.any_bind, Bool.or_eq_false_iff]
  exact ⟨⟨⟨⟨avoids_word rfl c cs hc, avoids_letters rfl c cs hc⟩, avoids_digits c cs hc⟩,
    avoids_quoted rfl c cs hc⟩, avoids_quoted rfl c cs hc⟩

theorem decides_alwaysHolds : Decides isTautology alwaysHolds := by
  have hvalues {quote : Char} (hquote : Text.isBlank quote = false) :
      Decides _ (inTurn [quoted quote, equals, quoted quote]) :=
    decides_quoted (decides_equals (avoids_quoted hquote) (decides_quoted decides_nil))
  have hnegated : Decides _ (inTurn [letters "NOT", blanks, letters "FALSE", boundary]) :=
    decides_letters rfl (decides_blanks (avoids_word rfl) (decides_word rfl))
  have hnumbers : Decides _ (inTurn [digits, equals, digits]) :=
    decides_digits avoids_equals (decides_equals avoids_digits_last decides_digits_last)
  refine (decides_or (decides_word rfl) (decides_or hnegated (decides_or hnumbers
    (decides_or (hvalues rfl) (decides_or (hvalues rfl) decides_none))))).congr fun cs ↦ ?_
  simp [isTautology, Option.any_bind, Bool.or_assoc, Function.comp_def]

def isSelectAll (cs : List Char) : Bool :=
  (word? "SELECT".toList cs).isSome ||
    (letters? "ALL".toList cs).any fun cs ↦
      (blanks? cs).any fun cs ↦ (word? "SELECT".toList cs).isSome

theorem avoids_selectAll : Avoids isSelectAll Text.isBlank := by
  intro c cs hc
  exact Bool.or_eq_false_iff.mpr ⟨avoids_word rfl c cs hc, avoids_letters rfl c cs hc⟩

theorem decides_selectAll :
    Decides isSelectAll (inTurn [perhaps [letters "ALL", blanks], letters "SELECT", boundary]) := by
  have hselect : Decides _ (inTurn [letters "SELECT", boundary]) := decides_word rfl
  exact decides_perhaps hselect (decides_letters rfl (decides_blanks (avoids_word rfl) hselect))

end Phrase

namespace Scan

open Phrase

variable {p : Pattern} {before front : List Char} {last : Option Char}

theorem separator_iff : Pattern.separator.startsAt last cs = true ↔
    Pattern.separator.phrase.Begins before cs := by
  constructor
  · intro h
    cases cs with
    | nil => cases h
    | cons c cs =>
      obtain rfl : c = ';' := by simpa [Pattern.startsAt] using h
      exact ⟨[';'], cs, rfl, rfl⟩
  · rintro ⟨run, behind, rfl, rfl⟩
    rfl

theorem comment_iff : Pattern.comment.startsAt last cs = true ↔
    Pattern.comment.phrase.Begins before cs := by
  constructor
  · intro h
    simp only [Pattern.startsAt] at h
    split at h
    case h_1 rest => exact ⟨['-', '-'], rest, rfl, mark "--", by simp, rfl⟩
    case h_2 rest => exact ⟨['/', '*'], rest, rfl, mark "/*", by simp, rfl⟩
    case h_3 rest => exact ⟨['*', '/'], rest, rfl, mark "*/", by simp, rfl⟩
    case h_4 => cases h
  · rintro ⟨run, behind, rfl, p, hp, hrun⟩
    simp only [List.mem_cons, List.not_mem_nil, or_false] at hp
    rcases hp with rfl | rfl | rfl <;> (obtain rfl := hrun; rfl)

theorem startsAt_iff : p.startsAt before.getLast? cs = true ↔ p.phrase.Begins before cs := by
  cases p with
  | separator => exact separator_iff
  | comment => exact comment_iff
  | tautology =>
    refine ((begins_wordStart rfl (decides_letters rfl (decides_blanks avoids_tautology
      (decides_last decides_alwaysHolds)))).trans ?_).symm
    simp [Pattern.startsAt, isOrTautology, Option.any_bind, Function.comp_def]
  | union =>
    refine ((begins_wordStart rfl (decides_letters rfl (decides_blanks avoids_selectAll
      decides_selectAll))).trans ?_).symm
    simp only [Pattern.startsAt, isUnionSelect, Option.any_bind, Function.comp_def]
    rfl
  | insert => exact (begins_wordStart rfl (decides_word rfl)).symm
  | update => exact (begins_wordStart rfl (decides_word rfl)).symm
  | delete => exact (begins_wordStart rfl (decides_word rfl)).symm
  | drop => exact (begins_wordStart rfl (decides_word rfl)).symm

theorem occursAfter_append (h : p.startsAt (front.getLast?.or last) cs = true) :
    p.occursAfter last (front ++ cs) = true := by
  induction front generalizing last with
  | nil => cases cs <;> simp_all [Pattern.occursAfter]
  | cons c front ih =>
    rw [List.cons_append, Pattern.occursAfter, Bool.or_eq_true]
    refine Or.inr (ih ?_)
    rw [List.getLast?_cons] at h
    cases hf : front.getLast? <;> simpa [hf] using h

theorem occursIn_iff : p.occursIn cs = true ↔ p.phrase.StandsIn cs := by
  constructor
  · intro h
    obtain ⟨front, back, rfl, hs⟩ := occursAfter_eq_true h
    rw [Option.or_none] at hs
    exact ⟨front, back, rfl, startsAt_iff.mp hs⟩
  · rintro ⟨front, back, rfl, hs⟩
    refine occursAfter_append ?_
    rw [Option.or_none]
    exact startsAt_iff.mpr hs

theorem selects_iff : selects cs = true ↔ selection.Begins [] cs :=
  (decides_anyOf (avoids_word rfl) (decides_word rfl) [] cs).symm

theorem find?_eq_some : (Pattern.all.find? fun p ↦ p.occursIn cs) = some p ↔
    p.phrase.StandsIn cs ∧ ∃ earlier later, Pattern.all = earlier ++ p :: later ∧
      ∀ p' ∈ earlier, ¬ p'.phrase.StandsIn cs := by
  simp only [List.find?_eq_some_iff_append, occursIn_iff, Bool.not_eq_true', ← Bool.not_eq_true]

theorem find?_eq_none : (Pattern.all.find? fun p ↦ p.occursIn cs) = none ↔
    ∀ p : Pattern, ¬ p.phrase.StandsIn cs := by
  have hall (p : Pattern) : p ∈ Pattern.all := by cases p <;> decide
  simp only [List.find?_eq_none, occursIn_iff, hall, true_implies]

/-- The scan lets a statement pass exactly if no phrase that a pattern stands for is in it and it begins
with a selection. Otherwise it names the first pattern, in the order of the patterns, whose phrase is
anywhere in the statement, or it says that nothing is selected if there is no such pattern. -/
theorem statement_verdict (statement : String) :
    (checkStatement statement = .ok () ↔
      (∀ p : Pattern, ¬ p.phrase.StandsIn statement.toList) ∧
        selection.Begins [] statement.toList) ∧
    (∀ name, checkStatement statement = .error (.pattern name) ↔
      ∃ p : Pattern, name = p.name ∧ p.phrase.StandsIn statement.toList ∧
        ∃ earlier later, Pattern.all = earlier ++ p :: later ∧
          ∀ p' ∈ earlier, ¬ p'.phrase.StandsIn statement.toList) ∧
    (checkStatement statement = .error .notSelect ↔
      (∀ p : Pattern, ¬ p.phrase.StandsIn statement.toList) ∧
        ¬ selection.Begins [] statement.toList) ∧
    ∀ e, checkStatement statement = .error e → e = .notSelect ∨ ∃ name, e = .pattern name := by
  simp only [← find?_eq_none, ← find?_eq_some, ← selects_iff]
  cases hfind : Pattern.all.find? fun p ↦ p.occursIn statement.toList with
  | none => cases hselect : selects statement.toList <;> simp [checkStatement, hfind, hselect]
  | some p => simpa [checkStatement, hfind] using fun name ↦ eq_comm

example : checkStatement "\u017felect 1 WHERE a oR\u00a0'x'='y'" =
    .error (.pattern "OR tautology") := by decide +kernel

end Scan

end Query

end FleetControl
