import FleetControl.Query.Scan
import Mathlib.Data.List.Induction
import Mathlib.Tactic.Common

namespace FleetControl

namespace Text

/-- The longest runs of word characters; the empty run stands between two other characters. -/
def runs (cs : List Char) : List (List Char) := cs.splitOnP fun c ↦ !isWord c

variable {cs ds run : List Char} {c : Char}

theorem runs_append_cons (hc : isWord c = false) :
    runs (cs ++ c :: ds) = runs cs ++ runs ds :=
  List.splitOnP_append_cons cs ds (by simp [hc])

theorem runs_of_word (h : ∀ c ∈ run, isWord c = true) : runs run = [run] :=
  List.splitOnP_eq_singleton (by simpa using h)

theorem mem_runs (hcs : cs.getLast?.any isWord = false) (hrun : ∀ c ∈ run, isWord c = true)
    (hds : ds.head?.any isWord = false) : run ∈ runs (cs ++ (run ++ ds)) := by
  have hright : run ∈ runs (run ++ ds) := by
    cases ds with
    | nil => simp [runs_of_word hrun]
    | cons d ds =>
      rw [runs_append_cons (by simpa using hds), runs_of_word hrun]
      exact List.mem_append_left _ (List.mem_singleton_self run)
  cases cs using List.reverseRecOn with
  | nil => exact hright
  | append_singleton before c =>
    have hc : isWord c = false := by simpa using hcs
    rw [List.append_assoc, List.singleton_append, runs_append_cons hc]
    exact List.mem_append_right _ hright

/-- Where no word goes on from one text to the next, the words are those of the two. -/
theorem mem_runs_append
    (h : cs.getLast?.any isWord = false ∨ ds.head?.any isWord = false)
    (hrun : run ∈ runs (cs ++ ds)) : run ∈ runs cs ∨ run ∈ runs ds := by
  rcases h with h | h
  · cases cs using List.reverseRecOn with
    | nil => exact Or.inr hrun
    | append_singleton before c =>
      have hc : isWord c = false := by simpa using h
      rw [List.append_assoc, List.singleton_append, runs_append_cons hc] at hrun
      rw [runs_append_cons hc]
      exact (List.mem_append.mp hrun).imp_left (List.mem_append_left _)
  · cases ds with
    | nil => exact Or.inl (by simpa using hrun)
    | cons d ds =>
      have hd : isWord d = false := by simpa using h
      rw [runs_append_cons hd] at hrun
      rw [← List.nil_append (d :: ds), runs_append_cons hd]
      exact (List.mem_append.mp hrun).imp_right (List.mem_append_right _)

theorem isUpper_iff : c.isUpper = true ↔ 65 ≤ c.toNat ∧ c.toNat ≤ 90 :=
  decide_eq_true_iff

theorem isLower_iff : c.isLower = true ↔ 97 ≤ c.toNat ∧ c.toNat ≤ 122 :=
  Bool.and_eq_true_iff.trans (and_congr decide_eq_true_iff decide_eq_true_iff)

theorem isAlpha_iff : c.isAlpha = true ↔ c.isUpper = true ∨ c.isLower = true :=
  Bool.or_eq_true_iff

theorem isWord_of_isAlpha (h : c.isAlpha = true) : isWord c = true := by
  have hc : c.toNat < 0x80 := by
    rcases isAlpha_iff.mp h with h | h
    · have hr := isUpper_iff.mp h
      omega
    · have hr := isLower_iff.mp h
      omega
  rw [isWord, if_pos hc, Char.isAlphanum, h]
  rfl

theorem isWord_of_isDigit (h : c.isDigit = true) : isWord c = true := by
  have hc : c.toNat < 0x80 := by
    have h' : c.toNat ≤ 57 := (Char.isDigit_iff_toNat.mp h).2
    omega
  rw [isWord, if_pos hc, Char.isAlphanum, h]
  simp

theorem isDigit_of_mem_number {n : Nat} (h : c ∈ (toString n).toList) : c.isDigit = true := by
  have hc : c ∈ Nat.toDigits 10 n := by simpa using h
  exact Nat.isDigit_of_mem_toDigits (by decide) (by decide) hc

theorem runs_number (n : Nat) : runs (toString n).toList = [(toString n).toList] :=
  runs_of_word fun _ hc ↦ isWord_of_isDigit (isDigit_of_mem_number hc)

theorem isWord_of_le_space (h : c.toNat ≤ 0x20) : isWord c = false := by
  rw [isWord, if_pos (by omega), Bool.or_eq_false_iff]
  constructor
  · by_contra hw
    rw [Bool.not_eq_false, Char.isAlphanum, Bool.or_eq_true_iff, isAlpha_iff] at hw
    rcases hw with (hw | hw) | hw
    · have hr := isUpper_iff.mp hw
      omega
    · have hr := isLower_iff.mp hw
      omega
    · have hr := Char.isDigit_iff_toNat.mp hw
      have hzero : '0'.toNat = 48 := rfl
      omega
  · rw [beq_eq_false_iff_ne]
    rintro rfl
    exact absurd h (by decide)

/-- No white space is part of a word: the tables of the two have nothing in common. -/
theorem isWord_of_isBlank (h : isBlank c = true) : isWord c = false := by
  have happart : ∀ b ∈ blanks, b.2 ≤ 0x20 ∨ 0x80 ≤ b.1 ∧ ∀ w ∈ words, b.2 < w.1 ∨ w.2 < b.1 := by
    decide +kernel
  obtain ⟨b, hb, hc⟩ := List.any_eq_true.mp h
  simp only [Bool.and_eq_true, decide_eq_true_eq] at hc
  rcases happart b hb with hlow | ⟨hhigh, hwords⟩
  · exact isWord_of_le_space (by omega)
  · rw [isWord, if_neg (by omega), Ranges.contains, List.any_eq_false]
    intro w hw hin
    simp only [Bool.and_eq_true, decide_eq_true_eq] at hin
    have := hwords w hw
    omega

end Text

namespace Query.Scan

def keywords : List (List Char) :=
  ["OR", "UNION", "INSERT", "UPDATE", "DELETE", "DROP"].map String.toList

variable {before : Option Char} {word cs ds rest : List Char} {p : Pattern}

theorem isWord_of_isLetter {capital c : Char} (hk : capital.isUpper = true)
    (h : isLetter capital c = true) : Text.isWord c = true := by
  simp only [isLetter, Bool.or_eq_true, beq_iff_eq, Bool.and_eq_true] at h
  rcases h with rfl | ⟨-, rfl⟩
  · refine Text.isWord_of_isAlpha ?_
    unfold Char.toUpper at hk
    split at hk
    · rename_i hl
      exact Text.isAlpha_iff.mpr (Or.inr (Text.isLower_iff.mpr hl))
    · exact Text.isAlpha_iff.mpr (Or.inl hk)
  · decide +kernel

theorem isLetter_of_isDigit {capital c : Char} (hk : capital.isUpper = true)
    (hc : c.isDigit = true) : isLetter capital c = false := by
  have hd : c.toUpper = c := by
    unfold Char.toUpper
    split
    · rename_i hl
      have h₁ : 97 ≤ c.toNat := hl.1
      have h₂ : c.toNat ≤ 57 := (Char.isDigit_iff_toNat.mp hc).2
      omega
    · rfl
  have hne : c ≠ capital := by
    rintro rfl
    have h₁ : 65 ≤ c.toNat := (Text.isUpper_iff.mp hk).1
    have h₂ : c.toNat ≤ 57 := (Char.isDigit_iff_toNat.mp hc).2
    omega
  have hs : c ≠ '\u017f' := by
    rintro rfl
    exact absurd hc (by decide)
  simp [isLetter, hd, hne, hs]

theorem letters?_digits (hw : word ∈ keywords) (hcs : ∀ c ∈ cs, c.isDigit = true) :
    letters? word cs ≠ some [] := by
  have hfirst : ∀ word ∈ keywords, word.head?.any Char.isUpper = true := by decide
  cases word with
  | nil => exact absurd (hfirst [] hw) (by decide)
  | cons k word =>
    have hk : k.isUpper = true := by simpa using hfirst _ hw
    cases cs with
    | nil => simp [letters?]
    | cons c cs => simp [letters?, isLetter_of_isDigit hk (hcs c List.mem_cons_self)]

theorem letters?_eq_some (hw : ∀ k ∈ word, k.isUpper = true) (h : letters? word cs = some rest) :
    ∃ run, cs = run ++ rest ∧ letters? word run = some [] ∧ ∀ c ∈ run, Text.isWord c = true := by
  induction word generalizing cs with
  | nil =>
    obtain rfl : cs = rest := by simpa [letters?] using h
    exact ⟨[], rfl, rfl, by simp⟩
  | cons k word ih =>
    rw [List.forall_mem_cons] at hw
    cases cs with
    | nil => simp [letters?] at h
    | cons c cs =>
      rw [letters?] at h
      split at h
      case isFalse => cases h
      case isTrue hc =>
        obtain ⟨run, rfl, hrun, hall⟩ := ih hw.2 h
        refine ⟨c :: run, rfl, ?_, ?_⟩
        · rw [letters?, if_pos hc, hrun]
        · exact List.forall_mem_cons.mpr ⟨isWord_of_isLetter hw.1 hc, hall⟩

theorem blanks?_endsWord (h : (blanks? cs).isSome = true) : endsWord cs = true := by
  cases cs with
  | nil => rfl
  | cons c cs =>
    rw [blanks?] at h
    split at h
    case isTrue hc => simp [endsWord, Text.isWord_of_isBlank hc]
    case isFalse => cases h

theorem head?_of_endsWord (h : endsWord cs = true) : cs.head?.any Text.isWord = false := by
  cases cs with
  | nil => rfl
  | cons c cs => simpa [endsWord] using h

def keywordAt (before : Option Char) (cs : List Char) : Prop :=
  before.any Text.isWord = false ∧
    ∃ word ∈ keywords, ∃ rest, letters? word cs = some rest ∧ endsWord rest = true

theorem keywordAt_of_word (hb : (!before.any Text.isWord) = true) (hw : word ∈ keywords)
    (h : (word? word cs).isSome = true) : keywordAt before cs := by
  obtain ⟨rest, hr⟩ := Option.isSome_iff_exists.mp h
  obtain ⟨hl, he⟩ := Option.filter_eq_some_iff.mp hr
  exact ⟨by simpa using hb, word, hw, rest, hl, he⟩

theorem keywordAt_of_blanks {next : List Char → Bool} (hb : (!before.any Text.isWord) = true)
    (hw : word ∈ keywords) (h : ((letters? word cs).bind blanks?).any next = true) :
    keywordAt before cs := by
  obtain ⟨after, ha⟩ := Option.isSome_iff_exists.mp (Option.isSome_of_any h)
  obtain ⟨rest, hl, hr⟩ := Option.bind_eq_some_iff.mp ha
  exact ⟨by simpa using hb, word, hw, rest, hl, blanks?_endsWord (by simp [hr])⟩

/-- What a pattern begins with: a mark, or a keyword. -/
theorem startsAt_cases (h : p.startsAt before cs = true) :
    (∃ c ∈ cs, c = ';' ∨ c = '-' ∨ c = '*') ∨ keywordAt before cs := by
  cases p with
  | separator =>
    refine Or.inl ⟨';', ?_, Or.inl rfl⟩
    exact List.mem_of_mem_head? (by simpa [Pattern.startsAt] using h)
  | comment =>
    left
    simp only [Pattern.startsAt] at h
    split at h
    · exact ⟨'-', by simp, by simp⟩
    · exact ⟨'*', by simp, by simp⟩
    · exact ⟨'*', by simp, by simp⟩
    · cases h
  | tautology =>
    obtain ⟨hb, h⟩ := Bool.and_eq_true_iff.mp h
    exact Or.inr (keywordAt_of_blanks hb (by decide) h)
  | union =>
    obtain ⟨hb, h⟩ := Bool.and_eq_true_iff.mp h
    exact Or.inr (keywordAt_of_blanks hb (by decide) h)
  | insert =>
    obtain ⟨hb, h⟩ := Bool.and_eq_true_iff.mp h
    exact Or.inr (keywordAt_of_word hb (by decide) h)
  | update =>
    obtain ⟨hb, h⟩ := Bool.and_eq_true_iff.mp h
    exact Or.inr (keywordAt_of_word hb (by decide) h)
  | delete =>
    obtain ⟨hb, h⟩ := Bool.and_eq_true_iff.mp h
    exact Or.inr (keywordAt_of_word hb (by decide) h)
  | drop =>
    obtain ⟨hb, h⟩ := Bool.and_eq_true_iff.mp h
    exact Or.inr (keywordAt_of_word hb (by decide) h)

theorem occursAfter_eq_true (h : p.occursAfter before cs = true) :
    ∃ front back, cs = front ++ back ∧ p.startsAt (front.getLast?.or before) back = true := by
  induction cs generalizing before with
  | nil => exact ⟨[], [], rfl, h⟩
  | cons c cs ih =>
    rcases Bool.or_eq_true_iff.mp h with h | h
    · exact ⟨[], c :: cs, rfl, h⟩
    · obtain ⟨front, back, rfl, hs⟩ := ih h
      refine ⟨c :: front, back, rfl, ?_⟩
      rw [List.getLast?_cons, Option.some_or]
      cases hf : front.getLast? <;> simpa [hf] using hs

/-- A text in which no pattern can begin: it has none of the marks, and none of its words is a
keyword. -/
def Calm (cs : List Char) : Prop :=
  (∀ c ∈ cs, c ≠ ';' ∧ c ≠ '-' ∧ c ≠ '*') ∧
    ∀ run ∈ Text.runs cs, ∀ word ∈ keywords, letters? word run ≠ some []

-- The bound of the first part is the text; an instance for all characters would try each of them.
instance (cs : List Char) : Decidable (Calm cs) :=
  @instDecidableAnd _ _ (List.decidableBAll (fun c ↦ c ≠ ';' ∧ c ≠ '-' ∧ c ≠ '*') cs)
    (List.decidableBAll (fun run ↦ ∀ word ∈ keywords, letters? word run ≠ some []) (Text.runs cs))

theorem Calm.occursIn (h : Calm cs) (p : Pattern) : p.occursIn cs = false := by
  by_contra ho
  obtain ⟨front, back, rfl, hs⟩ := occursAfter_eq_true (Bool.not_eq_false _ ▸ ho)
  rcases startsAt_cases hs with ⟨c, hc, hm⟩ | ⟨hb, word, hw, rest, hl, he⟩
  · obtain ⟨h₁, h₂, h₃⟩ := h.1 c (List.mem_append_right _ hc)
    rcases hm with hm | hm | hm <;> contradiction
  · have hcapitals : ∀ word ∈ keywords, word.all Char.isUpper = true := by decide
    obtain ⟨run, rfl, hrun, hall⟩ :=
      letters?_eq_some (List.all_eq_true.mp (hcapitals word hw)) hl
    refine h.2 run (Text.mem_runs ?_ hall (head?_of_endsWord he)) word hw hrun
    simpa using hb

theorem Calm.append (hcs : Calm cs) (hds : Calm ds)
    (h : cs.getLast?.any Text.isWord = false ∨ ds.head?.any Text.isWord = false) :
    Calm (cs ++ ds) :=
  ⟨List.forall_mem_append.mpr ⟨hcs.1, hds.1⟩, fun run hrun ↦
    (Text.mem_runs_append h hrun).elim (hcs.2 run) (hds.2 run)⟩

end Query.Scan

end FleetControl
