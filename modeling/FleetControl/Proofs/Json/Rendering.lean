import FleetControl.Proofs.Json.Parsing
import Mathlib.Data.List.TakeDrop
import Mathlib.Data.List.TakeWhile

namespace FleetControl.Json

variable {c : Char} {cs rest tail : List Char} {ts more : List Token}

/-- The tokens of a text, whatever the bound that is no less than its length. -/
def Lexes (cs : List Char) (ts : List Token) : Prop :=
  ∀ fuel, cs.length ≤ fuel → tokensWithin fuel cs = ts

theorem lexes_nil : Lexes [] [] := by
  intro fuel _
  cases fuel <;> rfl

theorem Lexes.space (hc : isSpace c = true) (h : Lexes cs ts) : Lexes (c :: cs) ts := by
  intro fuel hfuel
  cases fuel with
  | zero => cases hfuel
  | succ fuel =>
    rw [← h (fuel + 1) (Nat.le_of_lt hfuel), tokensWithin, tokensWithin, List.dropWhile_cons,
      if_pos hc]

theorem Lexes.spaces (h : Lexes cs ts) (hspaces : ∀ c ∈ tail, isSpace c = true) :
    Lexes (tail ++ cs) ts := by
  induction tail with
  | nil => exact h
  | cons c tail ih =>
    obtain ⟨hc, htail⟩ := List.forall_mem_cons.mp hspaces
    exact (ih htail).space hc

theorem Lexes.token {t : Token} (hc : isSpace c = false)
    (ht : ∀ fuel, cs.length ≤ fuel → tokenAt fuel c cs = (t, rest))
    (hrest : rest.length ≤ cs.length) (h : Lexes rest ts) : Lexes (c :: cs) (t :: ts) := by
  intro fuel hfuel
  cases fuel with
  | zero => cases hfuel
  | succ fuel =>
    have hlength : cs.length ≤ fuel := Nat.le_of_succ_le_succ hfuel
    have hdrop : (c :: cs).dropWhile isSpace = c :: cs := by
      rw [List.dropWhile_cons, if_neg (by simp [hc])]
    simp only [tokensWithin, hdrop, ht fuel hlength, h fuel (Nat.le_trans hrest hlength)]

theorem unicodeEscape_control (h : c.toNat < 0x20) (rest : List Char) :
    unicodeEscape ('0' :: '0' :: Nat.digitChar (c.toNat / 16) :: Nat.digitChar (c.toNat % 16) ::
      rest) = .ok (c, rest) := by
  have hzero : Text.hexDigit? '0' = some 0 := by decide
  have hunit : ((0 * 16 + 0) * 16 + c.toNat / 16) * 16 + c.toNat % 16 = c.toNat := by omega
  have hhex : hexUnit ('0' :: '0' :: Nat.digitChar (c.toNat / 16) ::
      Nat.digitChar (c.toNat % 16) :: rest) = .ok (c.toNat, rest) := by
    have hhigh := (Text.hexDigit?_digitChar (n := c.toNat / 16) (by omega)).1
    have hlow := (Text.hexDigit?_digitChar (n := c.toNat % 16) (by omega)).1
    simp only [hexUnit, hzero, hhigh, hlow, hunit]
  have hlow : ¬ (0xDC00 ≤ c.toNat) := by omega
  have hbelow : c.toNat < 0xD800 := by omega
  simp [unicodeEscape, hhex, hlow, hbelow, bind, Except.bind, Char.ofNat_toNat]

theorem unquote_escape (read : List Char) (fuel : ℕ) (c : Char) (rest : List Char) :
    unquote read (fuel + 1) (escape c ++ rest) = unquote (c :: read) fuel rest := by
  unfold escape
  split
  case h_8 hquote hbackslash _ _ _ _ _ =>
    split
    case isTrue hlow =>
      have hescape := unicodeEscape_control hlow rest
      simp only [List.cons_append, List.nil_append]
      rw [unquote]
      simp [hescape]
    case isFalse hhigh =>
      have hplain : c ≠ '"' ∧ c ≠ '\\' := ⟨hquote, hbackslash⟩
      simp [unquote, hplain, hhigh]
  all_goals rfl

theorem one_le_length_escape (c : Char) : 1 ≤ (escape c).length := by
  unfold escape
  split
  case h_8 => split <;> simp
  all_goals simp

theorem length_le_flatMap_escape (cs : List Char) : cs.length ≤ (cs.flatMap escape).length := by
  induction cs with
  | nil => exact Nat.le_refl 0
  | cons c cs ih =>
    have hc := one_le_length_escape c
    rw [List.flatMap_cons, List.length_append, List.length_cons]
    omega

theorem unquote_flatMap_escape (read : List Char) {fuel : ℕ} (h : cs.length ≤ fuel)
    (rest : List Char) : unquote read (fuel + 1) (cs.flatMap escape ++ '"' :: rest) =
      .ok (read.reverse ++ cs, rest) := by
  induction cs generalizing read fuel with
  | nil => simp [unquote]
  | cons c cs ih =>
    cases fuel with
    | zero => cases h
    | succ fuel =>
      rw [List.flatMap_cons, List.append_assoc, unquote_escape,
        ih (c :: read) (Nat.le_of_succ_le_succ h)]
      simp

theorem Lexes.text (s : String) (h : Lexes rest ts) :
    Lexes ((quote s).toList ++ rest) (.literal (.text s) :: ts) := by
  have hquote : (quote s).toList ++ rest = '"' :: (s.toList.flatMap escape ++ '"' :: rest) := by
    rw [quote, String.toList_ofList]
    simp
  have hsize := length_le_flatMap_escape s.toList
  rw [hquote]
  have hlength : rest.length ≤ (s.toList.flatMap escape ++ '"' :: rest).length := by
    rw [List.length_append, List.length_cons]
    omega
  refine Lexes.token rfl (fun fuel hfuel ↦ ?_) hlength h
  rw [List.length_append] at hfuel
  have henough : s.toList.length ≤ fuel := by omega
  have hread := unquote_flatMap_escape [] henough rest
  change (Token.literal (textLiteral fuel _).1, (textLiteral fuel _).2) = _
  simp only [textLiteral, hread]
  simp

/-- What may stand behind a value in compact text. -/
def Ended (rest : List Char) : Prop :=
  ∀ c ∈ rest.head?, c = ',' ∨ c = ']' ∨ c = '\x7d'

theorem Ended.cons (h : c = ',' ∨ c = ']' ∨ c = '\x7d') (rest : List Char) :
    Ended (c :: rest) := by
  intro d hd
  obtain rfl : c = d := by simpa using hd
  exact h

theorem Ended.isDigit_eq_false (h : Ended (c :: rest)) : c.isDigit = false := by
  rcases h c rfl with rfl | rfl | rfl <;> rfl

theorem spanDigits_append (cs : List Char) (h : Ended tail) :
    spanDigits (cs ++ tail) = ((spanDigits cs).1, (spanDigits cs).2 ++ tail) := by
  unfold spanDigits
  rw [List.span_eq_takeWhile_dropWhile, List.span_eq_takeWhile_dropWhile]
  induction cs with
  | nil =>
    cases tail with
    | nil => rfl
    | cons c tail => simp [h.isDigit_eq_false]
  | cons c cs ih =>
    obtain ⟨htake, hdrop⟩ := Prod.ext_iff.mp ih
    by_cases hc : c.isDigit = true
    · simp only at htake hdrop
      simp [hc, htake, hdrop]
    · simp [hc]

theorem length_spanDigits (cs : List Char) :
    (spanDigits cs).1.length + (spanDigits cs).2.length = cs.length := by
  unfold spanDigits
  rw [List.span_eq_takeWhile_dropWhile, ← List.length_append, List.takeWhile_append_dropWhile]

def Number.isFinite : Number → Bool
  | .int _ => true
  | .double x => x.isFinite

theorem numberLiteral_eq {n m : Number} (h : numberLiteral n = .number m) :
    n = m ∧ m.isFinite = true := by
  cases n with
  | int i => cases h; exact ⟨rfl, rfl⟩
  | double x =>
    rw [numberLiteral] at h
    split at h
    next hx => cases h; exact ⟨rfl, hx⟩
    next => cases h

/-- A number at the front is finite, and is read the same whatever stands behind the value. -/
def Local (read : List Char → Literal × List Char) (cs : List Char) : Prop :=
  ∀ n rest, read cs = (.number n, rest) → n.isFinite = true ∧ rest.length ≤ cs.length ∧
    ∀ tail, Ended tail → read (cs ++ tail) = (.number n, rest ++ tail)

section Local

variable {read read' : List Char → Literal × List Char} {n : Number}

theorem Local.skip (h : Local read cs) (heq : ∀ cs, read' (c :: cs) = read cs) :
    Local read' (c :: cs) := by
  intro n rest hread
  rw [heq] at hread
  obtain ⟨hn, hlength, htail⟩ := h n rest hread
  exact ⟨hn, Nat.le_succ_of_le hlength, fun tail hended ↦ (heq _).trans (htail tail hended)⟩

theorem Local.of_eq (h : Local read (c :: cs)) (heq : ∀ cs, read' (c :: cs) = read (c :: cs)) :
    Local read' (c :: cs) := by
  intro n rest hread
  rw [heq] at hread
  obtain ⟨hn, hlength, htail⟩ := h n rest hread
  exact ⟨hn, hlength, fun tail hended ↦ (heq _).trans (htail tail hended)⟩

end Local

theorem length_rest_le (cs : List Char) : (spanDigits cs).2.length ≤ cs.length := by
  have hlength := length_spanDigits cs
  omega

theorem exponentDigits_local (negative : Bool) (digits : List Char) (scale : ℕ) (minus : Bool)
    (cs : List Char) : Local (exponentDigits negative digits scale minus) cs := by
  intro n rest h
  unfold exponentDigits at h ⊢
  by_cases hempty : (spanDigits cs).1.isEmpty = true
  · simp [hempty, unfinishedNumber] at h
  · simp only [hempty, Bool.false_eq_true, if_false, Prod.mk.injEq] at h
    refine ⟨(numberLiteral_eq h.1).2, h.2 ▸ length_rest_le cs, fun tail hended ↦ ?_⟩
    simp only [spanDigits_append cs hended, hempty, Bool.false_eq_true, if_false, h]

theorem exponentLiteral_local (negative : Bool) (digits : List Char) (scale : ℕ)
    (cs : List Char) : Local (exponentLiteral negative digits scale) cs := by
  cases cs with
  | nil =>
    intro n rest h
    cases h
  | cons c cs =>
    by_cases hplus : c = '+'
    · subst hplus
      exact (exponentDigits_local negative digits scale false cs).skip fun _ ↦ rfl
    · by_cases hminus : c = '-'
      · subst hminus
        exact (exponentDigits_local negative digits scale true cs).skip fun _ ↦ rfl
      · refine (exponentDigits_local negative digits scale false (c :: cs)).of_eq fun rest ↦ ?_
        simp [exponentLiteral, hplus, hminus]

theorem Ended.head?_ne (h : Ended cs) : ∀ c ∈ cs.head?, c ≠ '.' ∧ c ≠ 'e' ∧ c ≠ 'E' := by
  intro c hc
  rcases h c hc with rfl | rfl | rfl <;> decide

theorem scaledLiteral_plain (negative : Bool) (digits : List Char) (scale : ℕ) (plain : Number)
    (h : ∀ c ∈ cs.head?, c ≠ 'e' ∧ c ≠ 'E') :
    scaledLiteral negative digits scale plain cs = (numberLiteral plain, cs) := by
  cases cs with
  | nil => rfl
  | cons c cs =>
    obtain ⟨hlower, hupper⟩ := h c rfl
    simp [scaledLiteral, hlower, hupper]

theorem scaledLiteral_local (negative : Bool) (digits : List Char) (scale : ℕ) (plain : Number)
    (cs : List Char) : Local (scaledLiteral negative digits scale plain) cs := by
  have hended {tail : List Char} (h : Ended tail) :=
    scaledLiteral_plain negative digits scale plain fun c hc ↦ (h.head?_ne c hc).2
  cases cs with
  | nil =>
    intro n rest h
    obtain ⟨hn, rfl⟩ := Prod.ext_iff.mp h
    exact ⟨(numberLiteral_eq hn).2, Nat.le_refl _, fun tail htail ↦ (hended htail).trans (Prod.ext hn rfl)⟩
  | cons c cs =>
    by_cases hlower : c = 'e'
    · subst hlower
      exact (exponentLiteral_local negative digits scale cs).skip fun _ ↦ rfl
    · by_cases hupper : c = 'E'
      · subst hupper
        exact (exponentLiteral_local negative digits scale cs).skip fun _ ↦ rfl
      · have heq (rest : List Char) : scaledLiteral negative digits scale plain (c :: rest) =
            (numberLiteral plain, c :: rest) :=
          scaledLiteral_plain negative digits scale plain (by simp [hlower, hupper])
        intro n rest h
        obtain ⟨hn, rfl⟩ := Prod.ext_iff.mp ((heq cs).symm.trans h)
        exact ⟨(numberLiteral_eq hn).2, Nat.le_refl _, fun tail _ ↦ (heq _).trans (Prod.ext hn rfl)⟩

theorem fractionLiteral_local (negative : Bool) (whole cs : List Char) :
    Local (fractionLiteral negative whole) cs := by
  intro n rest h
  unfold fractionLiteral at h ⊢
  by_cases hempty : (spanDigits cs).1.isEmpty = true
  · simp [hempty, unfinishedNumber] at h
  · simp only [hempty, Bool.false_eq_true, if_false] at h
    obtain ⟨hn, hlength, htail⟩ := scaledLiteral_local _ _ _ _ _ n rest h
    refine ⟨hn, Nat.le_trans hlength (length_rest_le cs), fun tail hended ↦ ?_⟩
    simp only [spanDigits_append cs hended, hempty, Bool.false_eq_true, if_false,
      htail tail hended]

theorem wholeLiteral_local (negative : Bool) (whole cs : List Char) :
    Local (wholeLiteral negative whole) cs := by
  have hscaled := scaledLiteral_local negative whole 0
    (wholeNumber negative (Decimal.natOfDigits whole))
  cases cs with
  | nil =>
    have hended {tail : List Char} (h : Ended tail) : wholeLiteral negative whole tail =
        scaledLiteral negative whole 0 (wholeNumber negative (Decimal.natOfDigits whole)) tail := by
      cases tail with
      | nil => rfl
      | cons c tail => simp [wholeLiteral, (h.head?_ne c rfl).1]
    intro n rest h
    obtain ⟨hn, hlength, htail⟩ := hscaled [] n rest h
    exact ⟨hn, hlength, fun tail htl ↦ (hended htl).trans (htail tail htl)⟩
  | cons c cs =>
    by_cases hpoint : c = '.'
    · subst hpoint
      exact (fractionLiteral_local negative whole cs).skip fun _ ↦ rfl
    · refine (hscaled (c :: cs)).of_eq fun rest ↦ ?_
      simp [wholeLiteral, hpoint]

theorem unsignedLiteral_number {negative : Bool} {n : Number}
    (h : unsignedLiteral negative cs = (.number n, rest)) :
    n.isFinite = true ∧ rest.length < cs.length ∧ ∀ tail, Ended tail →
      unsignedLiteral negative (cs ++ tail) = (.number n, rest ++ tail) := by
  have hlength := length_spanDigits cs
  cases hwhole : (spanDigits cs).1 with
  | nil => simp [unsignedLiteral, hwhole, unfinishedNumber] at h
  | cons d ds =>
    by_cases hzero : d = '0' ∧ ds ≠ []
    · obtain ⟨rfl, hds⟩ := hzero
      obtain ⟨e, es, rfl⟩ := List.exists_cons_of_ne_nil hds
      simp [unsignedLiteral, hwhole] at h
    · -- no zero leads other digits, so the number goes on behind all the digits in front
      have heq : ∀ cs, (spanDigits cs).1 = d :: ds →
          unsignedLiteral negative cs = wholeLiteral negative (d :: ds) (spanDigits cs).2 := by
        intro cs hcs
        cases ds with
        | nil => simp [unsignedLiteral, hcs]
        | cons e es =>
          have hd : d ≠ '0' := fun hd ↦ hzero ⟨hd, List.cons_ne_nil _ _⟩
          simp [unsignedLiteral, hcs, hd]
      obtain ⟨hn, hle, htail⟩ := wholeLiteral_local _ _ _ n rest ((heq cs hwhole).symm.trans h)
      have hspan {tail : List Char} (hended : Ended tail) := spanDigits_append cs hended
      refine ⟨hn, ?_, fun tail hended ↦ ?_⟩
      · rw [hwhole, List.length_cons] at hlength
        omega
      · rw [heq _ ((congrArg Prod.fst (hspan hended)).trans hwhole), hspan hended]
        exact htail tail hended

theorem textLiteral_ne_number (fuel : ℕ) (cs : List Char) (n : Number) :
    (textLiteral fuel cs).1 ≠ .number n := by
  unfold textLiteral
  cases unquote [] (fuel + 1) cs with
  | ok read => simp
  | error f =>
    cases skipText (fuel + 1) cs <;> simp

theorem wordLiteral_ne_number {value : Literal} {n : Number} (hvalue : value ≠ .number n)
    (word cs : List Char) : (wordLiteral value word cs).1 ≠ .number n := by
  induction word generalizing cs with
  | nil => exact hvalue
  | cons w word ih =>
    cases cs with
    | nil => exact Literal.noConfusion
    | cons c cs =>
      rw [wordLiteral]
      split
      · exact ih cs
      · exact Literal.noConfusion

theorem eq_of_tokenAt_number {fuel : ℕ} {n : Number}
    (h : (tokenAt fuel c cs).1 = .literal (.number n)) : c = '-' ∨ c.isDigit = true := by
  unfold tokenAt at h
  split at h
  case h_7 => exact absurd (Token.literal.inj h) (textLiteral_ne_number _ _ _)
  case h_8 | h_9 | h_10 =>
    exact absurd (Token.literal.inj h) (wordLiteral_ne_number Literal.noConfusion _ _)
  case h_11 => exact Or.inl rfl
  case h_12 =>
    split at h
    · exact Or.inr ‹_›
    · cases h
  all_goals cases h

theorem tokenAt_digit (hc : c.isDigit = true) (fuel : ℕ) (cs : List Char) : tokenAt fuel c cs =
    (.literal (unsignedLiteral false (c :: cs)).1, (unsignedLiteral false (c :: cs)).2) := by
  unfold tokenAt
  split
  case h_12 => rw [if_pos hc]
  all_goals exact absurd hc (by decide)

theorem tokenAt_number {fuel : ℕ} {n : Number}
    (h : tokenAt fuel c cs = (.literal (.number n), rest)) :
    n.isFinite = true ∧ rest.length ≤ cs.length ∧ ∀ fuel tail, Ended tail →
      tokenAt fuel c (cs ++ tail) = (.literal (.number n), rest ++ tail) := by
  rcases eq_of_tokenAt_number (congrArg Prod.fst h) with rfl | hc
  · have hread : unsignedLiteral true cs = (.number n, rest) := by
      obtain ⟨hliteral, hrest⟩ := Prod.ext_iff.mp h
      exact Prod.ext (Token.literal.inj hliteral) hrest
    obtain ⟨hn, hlength, htail⟩ := unsignedLiteral_number hread
    refine ⟨hn, Nat.le_of_lt hlength, fun fuel tail hended ↦ ?_⟩
    change (Token.literal (unsignedLiteral true _).1, (unsignedLiteral true _).2) = _
    rw [htail tail hended]
  · rw [tokenAt_digit hc] at h
    have hread : unsignedLiteral false (c :: cs) = (.number n, rest) := by
      obtain ⟨hliteral, hrest⟩ := Prod.ext_iff.mp h
      exact Prod.ext (Token.literal.inj hliteral) hrest
    obtain ⟨hn, hlength, htail⟩ := unsignedLiteral_number hread
    refine ⟨hn, Nat.le_of_lt_succ hlength, fun fuel tail hended ↦ ?_⟩
    rw [tokenAt_digit hc, ← List.cons_append, htail tail hended]

theorem isSpace_of_tokens_eq_nil {fuel : ℕ} (hlength : cs.length ≤ fuel)
    (h : tokensWithin fuel cs = []) : ∀ c ∈ cs, isSpace c = true := by
  cases fuel with
  | zero => simp [List.length_eq_zero_iff.mp (Nat.le_zero.mp hlength)]
  | succ fuel =>
    rw [tokensWithin] at h
    cases hdrop : cs.dropWhile isSpace with
    | nil => exact List.dropWhile_eq_nil_iff.mp hdrop
    | cons c rest => simp [hdrop] at h

theorem isSpace_eq_false_of_number (h : c = '-' ∨ c.isDigit = true) : isSpace c = false := by
  rw [← Bool.not_eq_true]
  intro hspace
  simp only [isSpace, Bool.or_eq_true, beq_iff_eq] at hspace
  rcases h with rfl | h
  · simp at hspace
  · rcases hspace with ((rfl | rfl) | rfl) | rfl <;> exact absurd h (by decide)

theorem isFinite_of_tokens {text : String} {n : Number}
    (h : tokens text = [.literal (.number n)]) : n.isFinite = true := by
  unfold tokens at h
  cases hlength : text.toList.length with
  | zero => simp [hlength, tokensWithin] at h
  | succ fuel =>
    cases hdrop : text.toList.dropWhile isSpace with
    | nil => simp [hlength, tokensWithin, hdrop] at h
    | cons c rest =>
      simp only [hlength, tokensWithin, hdrop, List.cons.injEq] at h
      exact (tokenAt_number (Prod.ext h.1 rfl)).1

theorem lexes_number {text : String} {n : Number} (h : tokens text = [.literal (.number n)])
    (hended : Ended tail) (htail : Lexes tail ts) :
    Lexes (text.toList ++ tail) (.literal (.number n) :: ts) := by
  unfold tokens at h
  generalize text.toList = cs at h ⊢
  cases hlength : cs.length with
  | zero => simp [hlength, tokensWithin] at h
  | succ fuel =>
    cases hdrop : cs.dropWhile isSpace with
    | nil => simp [hlength, tokensWithin, hdrop] at h
    | cons c rest =>
      -- around the number there may be spaces, which the tokens do not tell of
      have hsplit : cs.takeWhile isSpace ++ c :: rest = cs := by
        rw [← hdrop, List.takeWhile_append_dropWhile]
      simp only [hlength, tokensWithin, hdrop, List.cons.injEq] at h
      obtain ⟨-, hlast, htrail⟩ := tokenAt_number (Prod.ext h.1 rfl)
      have hrest : rest.length ≤ fuel := by
        have hsum := congrArg List.length hsplit
        rw [List.length_append, List.length_cons, hlength] at hsum
        omega
      have hspaces := isSpace_of_tokens_eq_nil (Nat.le_trans hlast hrest) h.2
      have hspace := isSpace_eq_false_of_number (eq_of_tokenAt_number h.1)
      rw [← hsplit, List.append_assoc]
      refine Lexes.spaces ?_ fun c hc ↦ (List.mem_takeWhile_imp hc)
      have hlong := Nat.add_le_add_right hlast tail.length
      rw [← List.length_append, ← List.length_append] at hlong
      exact Lexes.token hspace (fun fuel _ ↦ htrail fuel tail hended) hlong (htail.spaces hspaces)

/-- Characters that are read as these tokens wherever a value may stand. -/
def Spells (cs : List Char) (ts : List Token) : Prop :=
  ∀ tail more, Ended tail → Lexes tail more → Lexes (cs ++ tail) (ts ++ more)

theorem Lexes.word {l : Literal} (word : List Char) (hc : isSpace c = false)
    (hword : ∀ fuel, tokenAt fuel c (word ++ cs) = (.literal l, cs)) (h : Lexes cs ts) :
    Lexes (c :: (word ++ cs)) (.literal l :: ts) := by
  refine Lexes.token hc (fun fuel _ ↦ hword fuel) ?_ h
  rw [List.length_append]
  omega

theorem Lexes.mark {t : Token} (hc : isSpace c = false) (ht : ∀ fuel, tokenAt fuel c cs = (t, cs))
    (h : Lexes cs ts) : Lexes (c :: cs) (t :: ts) :=
  Lexes.token hc (fun fuel _ ↦ ht fuel) (Nat.le_refl _) h

theorem ended_flatMap (parts : List (List Char)) (h : Ended tail) :
    Ended (parts.flatMap ([','] ++ ·) ++ tail) := by
  cases parts with
  | nil => exact h
  | cons part rest => exact Ended.cons (Or.inl rfl) _

theorem lexes_flatMap {parts : List (List Char)} {spellings : List (List Token)}
    (h : List.Forall₂ Spells parts spellings) (hended : Ended tail) (htail : Lexes tail more) :
    Lexes (parts.flatMap ([','] ++ ·) ++ tail)
      (spellings.flatMap ([Token.comma] ++ ·) ++ more) := by
  induction h with
  | nil => exact htail
  | cons hpart _ ih =>
    rw [List.flatMap_cons, List.flatMap_cons, List.append_assoc, List.append_assoc,
      List.append_assoc, List.append_assoc]
    exact (hpart _ _ (ended_flatMap _ hended) ih).mark rfl fun _ ↦ rfl

theorem Spells.intercalate {parts : List (List Char)} {spellings : List (List Token)}
    (h : List.Forall₂ Spells parts spellings) :
    Spells ([','].intercalate parts) ([Token.comma].intercalate spellings) := by
  intro tail more hended htail
  cases h with
  | nil => exact htail
  | cons hfirst hrest =>
    rw [intercalate_cons, intercalate_cons, List.append_assoc, List.append_assoc]
    exact hfirst _ _ (ended_flatMap _ hended) (lexes_flatMap hrest hended htail)

theorem renderItems_eq (items : List Json) : renderItems items = items.map render := by
  induction items with
  | nil => rfl
  | cons v rest ih => rw [renderItems, ih, List.map_cons]

theorem renderFields_eq (fields : Fields) :
    renderFields fields = fields.map fun f ↦ quote f.1 ++ ":" ++ f.2.render := by
  induction fields with
  | nil => rfl
  | cons f rest ih => rw [renderFields, ih, List.map_cons]

theorem mem_itemsNumbers {items : List Json} {n : Number} :
    n ∈ itemsNumbers items ↔ ∃ v ∈ items, n ∈ v.numbers := by
  induction items with
  | nil => simp [itemsNumbers]
  | cons v rest ih => simp [itemsNumbers, ih]

theorem mem_fieldsNumbers {fields : Fields} {n : Number} :
    n ∈ fieldsNumbers fields ↔ ∃ f ∈ fields, n ∈ f.2.numbers := by
  induction fields with
  | nil => simp [fieldsNumbers]
  | cons f rest ih => simp [fieldsNumbers, ih]

theorem toList_render_list (items : List Json) : (list items).render.toList =
    '[' :: ([','].intercalate (items.map fun v ↦ v.render.toList) ++ [']']) := by
  rw [render, String.toList_append, String.toList_append, String.toList_intercalate,
    renderItems_eq, List.map_map]
  rfl

theorem toList_render_object (fields : Fields) : (object fields).render.toList =
    '\x7b' :: ([','].intercalate
      (fields.map fun f ↦ (quote f.1).toList ++ ':' :: f.2.render.toList) ++ ['\x7d']) := by
  have hparts : (fields.map fun f ↦ quote f.1 ++ ":" ++ f.2.render).map String.toList =
      fields.map fun f ↦ (quote f.1).toList ++ ':' :: f.2.render.toList := by
    rw [List.map_map]
    refine List.map_congr_left fun f _ ↦ ?_
    rw [Function.comp_apply, String.toList_append, String.toList_append, List.append_assoc]
    rfl
  rw [render, String.toList_append, String.toList_append, String.toList_intercalate,
    renderFields_eq, hparts]
  rfl

theorem Number.parse_render {n : Number} (h : n.survives = true) :
    parse n.render = .ok (.number n) := by
  unfold survives at h
  split at h
  next m hm => rw [hm, of_decide_eq_true h]
  next => cases h

theorem spells_render {v : Json} (h : ∀ n ∈ v.numbers, n.survives = true) :
    Spells v.render.toList v.spelling := by
  induction v using ind with
  | null =>
    exact fun tail more hended htail ↦ htail.word ['u', 'l', 'l'] rfl fun _ ↦ rfl
  | bool b =>
    cases b with
    | false => exact fun tail more hended htail ↦ htail.word ['a', 'l', 's', 'e'] rfl fun _ ↦ rfl
    | true => exact fun tail more hended htail ↦ htail.word ['r', 'u', 'e'] rfl fun _ ↦ rfl
  | number n =>
    have hn := Number.parse_render (h n (List.mem_singleton_self n))
    exact fun tail more hended htail ↦
      lexes_number (Draft.tokens_of_parse_number hn) hended htail
  | text s => exact fun tail more _ htail ↦ htail.text s
  | list items ih =>
    have hitems : List.Forall₂ Spells (items.map fun v ↦ v.render.toList) (items.map spelling) := by
      rw [List.forall₂_map_left_iff, List.forall₂_map_right_iff]
      refine List.forall₂_same.mpr fun v hv ↦ ih v hv ?_
      exact fun n hn ↦ h n (mem_itemsNumbers.mpr ⟨v, hv, hn⟩)
    intro tail more hended htail
    rw [toList_render_list, spelling, itemSpellings_eq, List.cons_append, List.cons_append,
      List.append_assoc, List.append_assoc]
    refine Lexes.mark rfl (fun _ ↦ rfl) ?_
    refine Spells.intercalate hitems _ _ (Ended.cons (Or.inr (Or.inl rfl)) _) ?_
    exact htail.mark rfl fun _ ↦ rfl
  | object fields ih =>
    have hfields : List.Forall₂ Spells
        (fields.map fun f ↦ (quote f.1).toList ++ ':' :: f.2.render.toList)
        (fields.map fun f ↦ .literal (.text f.1) :: .colon :: spelling f.2) := by
      rw [List.forall₂_map_left_iff, List.forall₂_map_right_iff]
      refine List.forall₂_same.mpr fun f hf tail more hended htail ↦ ?_
      have hvalue := ih f hf (fun n hn ↦ h n (mem_fieldsNumbers.mpr ⟨f, hf, hn⟩)) tail more
        hended htail
      rw [List.append_assoc]
      exact (hvalue.mark rfl fun _ ↦ rfl).text f.1
    intro tail more hended htail
    rw [toList_render_object, spelling, fieldSpellings_eq, List.cons_append, List.cons_append,
      List.append_assoc, List.append_assoc]
    refine Lexes.mark rfl (fun _ ↦ rfl) ?_
    refine Spells.intercalate hfields _ _ (Ended.cons (Or.inr (Or.inr rfl)) _) ?_
    exact htail.mark rfl fun _ ↦ rfl

variable {v : Json}

/-- What is read of the text of a value is the value, when it is not nested too deep and its numbers
survive. -/
theorem ofText_render (hv : v.within 127 = true) (h : ∀ n ∈ v.numbers, n.survives = true) :
    Draft.ofText v.render = ⟨v.draft, false⟩ := by
  have htokens : tokens v.render = v.spelling := by
    have hlex := spells_render h [] [] (fun c hc ↦ nomatch hc) lexes_nil
    rw [List.append_nil, List.append_nil] at hlex
    exact hlex _ (Nat.le_refl _)
  rw [Draft.ofText, htokens, Draft.readOn_spelling hv]

/-- Writing a value with its keys in order and reading it gives the value. -/
theorem parse_render (hv : v.within 127 = true) (hkeys : v.inOrder = true)
    (h : ∀ n ∈ v.numbers, n.survives = true) : parse v.render = .ok v := by
  simp [parse, ofText_render hv h, value_draft hkeys]

end FleetControl.Json
