import FleetControl.Text.Utf8
import Mathlib.Data.List.Induction
import Mathlib.Tactic.Common
import Mathlib.Tactic.SplitIfs

namespace FleetControl.Text

variable {s : String} {c : Char} {b : UInt8}

theorem decode?_encode (s : String) : decode? (encode s) = some s := by
  unfold decode? encode String.fromUTF8?
  rw [Array.toArray_toList, dif_pos s.isValidUTF8]
  rfl

theorem encode_eq_flatMap (s : String) : encode s = s.toList.flatMap String.utf8EncodeChar := by
  conv => lhs; rw [← String.ofList_toList (s := s)]
  rw [encode, String.toByteArray_ofList, List.utf8Encode, List.data_toByteArray]

@[simp] theorem length_encode (s : String) : (encode s).length = s.utf8ByteSize := by
  simp [encode]

@[simp] theorem encode_eq_nil_iff : encode s = [] ↔ s = "" := by
  rw [← List.length_eq_zero_iff, length_encode, String.utf8ByteSize_eq_zero_iff]

theorem utf8EncodeChar_low (h : c.toNat < 128) :
    String.utf8EncodeChar c = [UInt8.ofNat c.toNat] :=
  if_pos (Nat.le_of_lt_succ h)

theorem utf8EncodeChar_high (h : 128 ≤ c.toNat) :
    ∀ b ∈ String.utf8EncodeChar c, 128 ≤ b.toNat := by
  have hc : ¬c.val.toNat ≤ 127 := Nat.not_le.mpr h
  unfold String.utf8EncodeChar
  dsimp only
  rw [if_neg hc]
  split_ifs <;> simp <;> omega

theorem eq_of_mem_utf8EncodeChar (hb : b.toNat < 128) (h : b ∈ String.utf8EncodeChar c) :
    c = Char.ofNat b.toNat := by
  have hc : c.toNat < 128 := by
    by_contra hc
    have hhigh := utf8EncodeChar_high (Nat.not_lt.mp hc) b h
    omega
  rw [utf8EncodeChar_low hc, List.mem_singleton] at h
  have hmod : c.toNat % 256 = c.toNat := Nat.mod_eq_of_lt (by omega)
  rw [h, UInt8.toNat_ofNat', hmod, Char.ofNat_toNat]

theorem mem_of_mem_encode (hb : b.toNat < 128) (h : b ∈ encode s) :
    Char.ofNat b.toNat ∈ s.toList := by
  rw [encode_eq_flatMap, List.mem_flatMap] at h
  obtain ⟨c, hc, hbc⟩ := h
  exact eq_of_mem_utf8EncodeChar hb hbc ▸ hc

theorem getLast?_of_encode (hb : b.toNat < 128) (h : (encode s).getLast? = some b) :
    s.toList.getLast? = some (Char.ofNat b.toNat) := by
  rw [encode_eq_flatMap] at h
  cases hs : s.toList using List.reverseRecOn with
  | nil => simp [hs] at h
  | append_singleton before c =>
    have hne : String.utf8EncodeChar c ≠ [] := by
      rw [← List.length_pos_iff, String.length_utf8EncodeChar]
      exact c.utf8Size_pos
    rw [hs, List.flatMap_append, List.flatMap_singleton, List.getLast?_append,
      List.getLast?_eq_some_getLast hne, Option.some_or] at h
    have hb' : b ∈ String.utf8EncodeChar c := Option.some.inj h ▸ List.getLast_mem hne
    rw [List.getLast?_concat, eq_of_mem_utf8EncodeChar hb hb']

end FleetControl.Text
