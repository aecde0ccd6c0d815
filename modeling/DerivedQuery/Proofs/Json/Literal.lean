import DerivedQuery.Json.Reader

/-!
# Literals of texts

The literal of a text is read up to the quote behind it (`readLiteral_encode`) and stands for the
text (`decode_encode`). A character is escaped in one of two ways or not at all (`escape_cases`),
and a reader of literals needs to be looked at for these three only.
-/

namespace DerivedQuery.Json

theorem hexQuad_hexDigit :
    ∀ n < 0x20, hexQuad? '0' '0' (hexDigit (n / 16)) (hexDigit (n % 16)) = some n := by
  decide

/-- How a character stands in a literal: behind a backslash by a letter, or by its number, or as
it is. -/
theorem escape_cases (c : Char) :
    (∃ letter, escape c = ['\\', letter] ∧ letter ≠ 'u' ∧ unescape? letter = some c) ∨
      (∃ a b, escape c = ['\\', 'u', '0', '0', a, b] ∧ c.toNat < 0x20 ∧
        hexQuad? '0' '0' a b = some c.toNat) ∨
      (escape c = [c] ∧ c ≠ '"' ∧ c ≠ '\\' ∧ 0x20 ≤ c.toNat) := by
  by_cases hletter : c ∈ ['"', '\\', '\x08', '\t', '\n', '\x0C', '\r']
  · left
    simp only [List.mem_cons, List.not_mem_nil, or_false] at hletter
    rcases hletter with rfl | rfl | rfl | rfl | rfl | rfl | rfl
    · exact ⟨'"', by decide⟩
    · exact ⟨'\\', by decide⟩
    · exact ⟨'b', by decide⟩
    · exact ⟨'t', by decide⟩
    · exact ⟨'n', by decide⟩
    · exact ⟨'f', by decide⟩
    · exact ⟨'r', by decide⟩
  · right
    simp only [List.mem_cons, List.not_mem_nil, or_false, not_or] at hletter
    obtain ⟨hquote, hbackslash, hb, ht, hn, hf, hr⟩ := hletter
    by_cases hcontrol : c.toNat < 0x20
    · left
      refine ⟨hexDigit (c.toNat / 16), hexDigit (c.toNat % 16), ?_, hcontrol,
        hexQuad_hexDigit c.toNat hcontrol⟩
      simp only [escape, if_neg hquote, if_neg hbackslash, if_neg hb, if_neg ht, if_neg hn,
        if_neg hf, if_neg hr, if_pos hcontrol]
    · right
      refine ⟨?_, hquote, hbackslash, by omega⟩
      simp only [escape, if_neg hquote, if_neg hbackslash, if_neg hb, if_neg ht, if_neg hn,
        if_neg hf, if_neg hr, if_neg hcontrol]

theorem decodeChars_escape (c : Char) (rest : List Char) :
    decodeChars? (escape c ++ rest) = (decodeChars? rest).map (c :: ·) := by
  rcases escape_cases c with ⟨letter, hescape, hu, hletter⟩ | ⟨a, b, hescape, hcontrol, hquad⟩ |
    ⟨hescape, -, hbackslash, -⟩
  · rw [hescape, List.cons_append, List.cons_append, List.nil_append, decodeChars?]
    · rw [hletter]
    · rintro _ _ _ _ _ rfl
      contradiction
  · have hhalf : isLowSurrogate c.toNat = false ∧ isHighSurrogate c.toNat = false := by
      simp only [isLowSurrogate, isHighSurrogate, Bool.and_eq_false_iff, decide_eq_false_iff_not]
      omega
    rw [hescape]
    show decodeChars? ('\\' :: 'u' :: '0' :: '0' :: a :: b :: rest) = _
    rw [decodeChars?, hquad]
    simp only [hhalf.1, hhalf.2, Bool.false_eq_true, if_false, Char.ofNat_toNat]
  · rw [hescape, List.singleton_append, decodeChars?]
    · rw [if_neg hbackslash]
    · intros; contradiction
    · intros; contradiction

/-- Decoding undoes encoding. -/
theorem decode_encode (text : String) : decode? (encode text) = some text := by
  have hchars : ∀ cs : List Char, decodeChars? (cs.flatMap escape) = some cs := by
    intro cs
    induction cs with
    | nil => rfl
    | cons c cs ih =>
      rw [List.flatMap_cons, decodeChars_escape, ih]
      rfl
  rw [decode?, encode, String.toList_ofList, hchars, Option.map_some, String.ofList_toList]

theorem readLiteral_escape (c : Char) (rest : List Char) :
    readLiteral (escape c ++ rest) =
      (readLiteral rest).map fun (literal, after) => (escape c ++ literal, after) := by
  rcases escape_cases c with ⟨letter, hescape, hu, hletter⟩ | ⟨a, b, hescape, hcontrol, hquad⟩ |
    ⟨hescape, hquote, hbackslash, hplain⟩
  · rw [hescape, List.cons_append, List.cons_append, List.nil_append, readLiteral]
    · rw [hletter]
      rfl
    · rintro _ _ _ _ _ rfl
      contradiction
  · rw [hescape]
    show readLiteral ('\\' :: 'u' :: '0' :: '0' :: a :: b :: rest) = _
    rw [readLiteral, hquad]
    rfl
  · rw [hescape, List.singleton_append, readLiteral]
    · have hcontrol : ¬c.toNat < 0x20 := by omega
      simp only [if_neg hquote, hbackslash, hcontrol, decide_false, Bool.or_self,
        Bool.false_eq_true, if_false]
      rfl
    · intros; contradiction
    · intros; contradiction

/-- The literal of a text is read up to the quote behind it. -/
theorem readLiteral_encode (text : String) (rest : List Char) :
    readLiteral ((encode text).toList ++ '"' :: rest) = some ((encode text).toList, rest) := by
  have hchars : ∀ cs : List Char,
      readLiteral (cs.flatMap escape ++ '"' :: rest) = some (cs.flatMap escape, rest) := by
    intro cs
    induction cs with
    | nil => rfl
    | cons c cs ih =>
      rw [List.flatMap_cons, List.append_assoc, readLiteral_escape, ih]
      rfl
  rw [encode, String.toList_ofList, hchars]

end DerivedQuery.Json
