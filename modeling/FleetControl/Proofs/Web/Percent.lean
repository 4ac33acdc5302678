import FleetControl.Proofs.Text.Utf8
import FleetControl.Web.Percent

namespace FleetControl.Web

variable {set cs : List Char} {c : Char}

theorem percentDecode_percentByte (b : UInt8) (rest : List Char) :
    percentDecode (percentByte b ++ rest) = b :: percentDecode rest := by
  have hb : b.toNat < 256 := b.toNat_lt
  have hhigh := (Text.hexDigit?_digitChar (n := b.toNat / 16) (by omega)).2
  have hlow := (Text.hexDigit?_digitChar (n := b.toNat % 16) (by omega)).2
  have hbyte : b.toNat / 16 * 16 + b.toNat % 16 = b.toNat := by omega
  simp only [percentByte, List.cons_append, List.nil_append, percentDecode, hhigh, hlow, hbyte]
  rw [Nat.toUInt8_eq, UInt8.ofNat_toNat]

theorem percentDecode_percentBytes (bytes : List UInt8) (rest : List Char) :
    percentDecode (bytes.flatMap percentByte ++ rest) = bytes ++ percentDecode rest := by
  induction bytes with
  | nil => rfl
  | cons b bytes ih =>
    rw [List.flatMap_cons, List.append_assoc, percentDecode_percentByte, ih, List.cons_append]

theorem percentDecode_cons (h : c ≠ '%') (rest : List Char) :
    percentDecode (c :: rest) = String.utf8EncodeChar c ++ percentDecode rest := by
  rw [percentDecode]
  rintro a b rest' rfl
  exact absurd rfl h

theorem percentDecode_percentChar (hset : '%' ∈ set) (c : Char) (rest : List Char) :
    percentDecode (percentChar set c ++ rest) =
      String.utf8EncodeChar c ++ percentDecode rest := by
  unfold percentChar
  split
  · exact percentDecode_percentBytes _ rest
  · rename_i hplain
    refine percentDecode_cons ?_ rest
    rintro rfl
    simp [hset] at hplain

theorem percentDecode_percentEncode (hset : '%' ∈ set) (cs : List Char) :
    percentDecode (percentEncode set cs) = cs.flatMap String.utf8EncodeChar := by
  induction cs with
  | nil => rfl
  | cons c cs ih =>
    rw [percentEncode, List.flatMap_cons, percentDecode_percentChar hset, List.flatMap_cons, ← ih]
    rfl

theorem decode?_percentEncode (hset : '%' ∈ set) (s : String) :
    Text.decode? (percentDecode (percentEncode set s.toList)) = some s := by
  rw [percentDecode_percentEncode hset, ← Text.encode_eq_flatMap, Text.decode?_encode]

def percentAlphabet : List Char := "%0123456789ABCDEF".toList

theorem mem_percentByte {b : UInt8} (h : c ∈ percentByte b) : c ∈ percentAlphabet := by
  have hb : b.toNat < 256 := b.toNat_lt
  have hall : ∀ n < 16, (Nat.digitChar n).toUpper ∈ percentAlphabet := by decide
  simp only [percentByte, List.mem_cons, List.not_mem_nil, or_false] at h
  rcases h with rfl | rfl | rfl
  · decide
  · exact hall _ (by omega)
  · exact hall _ (by omega)

/-- What is left of a text are characters that stand for themselves. -/
theorem mem_percentEncode (h : c ∈ percentEncode set cs) :
    c ∈ percentAlphabet ∨ (c ∈ cs ∧ c ∉ set) := by
  obtain ⟨d, hd, hc⟩ := List.mem_flatMap.mp h
  unfold percentChar at hc
  split at hc
  · obtain ⟨b, -, hb⟩ := List.mem_flatMap.mp hc
    exact Or.inl (mem_percentByte hb)
  · rename_i hplain
    obtain rfl := List.mem_singleton.mp hc
    exact Or.inr ⟨hd, fun hm ↦ hplain (by simp [hm])⟩

end FleetControl.Web
