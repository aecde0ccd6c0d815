import DerivedQuery.Naming.Style
import DerivedQuery.Proofs.Naming.Capitalize

/-!
# Where the words of a name start

Whether a word starts at a place of a text can be told from the three characters around the place
(`IsBoundary`). `cutAfter` tells it from the character it has just read, while it puts the words
together from the end of the text. Both agree at every place, because the text behind a character
has the same boundaries as the text that begins with it (`isBoundary_cons_cons`).

> `splitCamel_cuts`: a name is cut at its boundaries and nowhere else, and the words that the
> underscore styles join are those of its parts between underscores.
-/

namespace DerivedQuery.Naming

open DerivedQuery.Unicode

/-! ## Boundaries -/

/-- Whether there is a boundary in front of a place of a text. The character at the place is in
upper case, and the one before it is in lower case or an ASCII digit, or it is in upper case too and
the one behind the place is in lower case. -/
def IsBoundary (text : List Char) (i : Nat) : Prop :=
  0 < i ∧ ∃ before c, text[i - 1]? = some before ∧ text[i]? = some c ∧ isUppercase c = true ∧
    (isLowercase before = true ∨ before.isDigit = true ∨
      isUppercase before = true ∧ ∃ after, text[i + 1]? = some after ∧ isLowercase after = true)

theorem not_isBoundary_singleton (c : Char) (i : Nat) : ¬IsBoundary [c] (i + 1) := by
  rintro ⟨-, before, d, -, hd, -⟩
  cases hd

/-- Between the first two characters there is a boundary just where a word starts behind the
first. -/
theorem isBoundary_one {before c : Char} {rest : List Char} :
    IsBoundary (before :: c :: rest) 1 ↔ isWordStart before c rest.head? = true := by
  have hafter : (∃ after, rest.head? = some after ∧ isLowercase after = true) ↔
      rest.head?.any isLowercase = true := by
    rw [Option.any_eq_true]
  have hnext : (before :: c :: rest)[1 + 1]? = rest.head? := (List.head?_eq_getElem?).symm
  rw [IsBoundary, hnext, hafter]
  simp [isWordStart, or_assoc]

/-- The first character plays no part in the boundaries behind the second. -/
theorem isBoundary_cons_cons {before : Char} {text : List Char} {i : Nat} :
    IsBoundary (before :: text) (i + 2) ↔ IsBoundary text (i + 1) := by
  simp [IsBoundary]

/-! ## The starts of words -/

/-- Where words start that follow each other, when `offset` characters precede them all. -/
def starts (offset : Nat) (words : List (List Char)) : List Nat :=
  (withOffsets offset words).map Prod.fst

theorem starts_cons (offset : Nat) (word : List Char) (words : List (List Char)) :
    starts offset (word :: words) = offset :: starts (offset + word.length) words := rfl

/-- The words behind the first one start at the boundaries of the text. -/
theorem mem_starts_cutAfter (before : Char) (text : List Char) (offset i : Nat) :
    i ∈ starts (offset + (cutAfter before text).1.length) (cutAfter before text).2 ↔
      ∃ k, i = offset + k ∧ IsBoundary (before :: text) (k + 1) := by
  induction text generalizing before offset with
  | nil =>
    refine iff_of_false List.not_mem_nil ?_
    rintro ⟨k, -, hk⟩
    exact not_isBoundary_singleton before k hk
  | cons c rest ih =>
    -- of the places behind `before`, the first is the one in front of `c`; the others are those
    -- behind `c`, with one more character in front of them
    have hbehind : (∃ k, i = offset + (k + 1) ∧ IsBoundary (before :: c :: rest) (k + 1 + 1)) ↔
        i ∈ starts (offset + 1 + (cutAfter c rest).1.length) (cutAfter c rest).2 := by
      rw [ih c (offset + 1)]
      refine exists_congr fun k => ?_
      rw [isBoundary_cons_cons, Nat.add_assoc, Nat.add_comm 1 k]
    rw [← Nat.or_exists_add_one, hbehind, isBoundary_one, Nat.add_zero, Nat.add_right_comm]
    simp only [cutAfter]
    split
    next hstart =>
      rw [starts_cons, List.mem_cons, and_iff_left hstart]
      rfl
    next hstart =>
      rw [or_iff_right fun h => hstart h.2]
      rfl

/-- The words of a text start at its beginning, unless it is empty, and at its boundaries. -/
theorem mem_starts_camelWords (text : List Char) (i : Nat) :
    i ∈ starts 0 (camelWords text) ↔ i = 0 ∧ text ≠ [] ∨ IsBoundary text i := by
  cases text with
  | nil => simp [camelWords, starts, withOffsets, IsBoundary]
  | cons c rest =>
    have hbehind : (∃ k, i = 1 + k ∧ IsBoundary (c :: rest) (k + 1)) ↔
        IsBoundary (c :: rest) i := by
      constructor
      · rintro ⟨k, rfl, hk⟩
        rwa [Nat.add_comm]
      · intro hi
        have hpos : 0 < i := hi.1
        exact ⟨i - 1, by omega, by rwa [Nat.sub_add_cancel hpos]⟩
    have hlength : 0 + (c :: (cutAfter c rest).1).length = 1 + (cutAfter c rest).1.length := by
      rw [Nat.zero_add, List.length_cons, Nat.add_comm]
    show i ∈ starts 0 ((c :: (cutAfter c rest).1) :: (cutAfter c rest).2) ↔ _
    rw [starts_cons, List.mem_cons, hlength, mem_starts_cutAfter, hbehind,
      and_iff_left (List.cons_ne_nil c rest)]

/-! ## The words with their offsets -/

theorem map_snd_withOffsets (offset : Nat) (words : List (List Char)) :
    (withOffsets offset words).map Prod.snd = words.map String.ofList := by
  induction words generalizing offset with
  | nil => rfl
  | cons word words ih => rw [withOffsets, List.map_cons, List.map_cons, ih]

theorem join_map_ofList (words : List (List Char)) :
    String.join (words.map String.ofList) = String.ofList words.flatten := by
  rw [← String.toList_inj, String.toList_join, String.toList_ofList, List.flatMap_map]
  simp only [String.toList_ofList, List.flatMap_id']

/-- The offset of a word counts the characters of the words before it. -/
theorem offset_eq_length {offset : Nat} {words : List (List Char)} {w : Nat × String}
    {before after : List (Nat × String)} (h : withOffsets offset words = before ++ w :: after) :
    w.1 = offset + (String.join (before.map Prod.snd)).length := by
  induction before generalizing offset words with
  | nil =>
    cases words with
    | nil => cases h
    | cons word words =>
      obtain ⟨rfl, -⟩ := List.cons.inj h
      rfl
  | cons first before ih =>
    cases words with
    | nil => cases h
    | cons word words =>
      obtain ⟨rfl, hrest⟩ := List.cons.inj h
      rw [ih hrest, List.map_cons, String.join_cons, String.length_append, String.length_ofList,
        Nat.add_assoc]

/-- Whether texts with offsets are what a text is cut into at its boundaries. -/
structure CutAtBoundaries (text : String) (words : List (Nat × String)) : Prop where
  nonempty : ∀ word ∈ words, word.2 ≠ ""
  join : String.join (words.map Prod.snd) = text
  offset : ∀ before word after, words = before ++ word :: after →
    word.1 = (String.join (before.map Prod.snd)).length
  start : ∀ i, i ∈ words.map Prod.fst ↔ i = 0 ∧ text ≠ "" ∨ IsBoundary text.toList i

theorem cutAtBoundaries_splitCamel (text : String) : CutAtBoundaries text (splitCamel text) := by
  refine ⟨?_, ?_, ?_, ?_⟩
  · intro word hword
    have hmem : word.2 ∈ (camelWords text.toList).map String.ofList := by
      rw [← map_snd_withOffsets 0]
      exact List.mem_map_of_mem hword
    obtain ⟨chars, hchars, heq⟩ := List.mem_map.mp hmem
    rw [← heq]
    exact fun hempty => ne_nil_of_mem_camelWords hchars (String.ofList_eq_empty_iff.mp hempty)
  · rw [splitCamel, map_snd_withOffsets, join_map_ofList, flatten_camelWords, String.ofList_toList]
  · intro before word after h
    rw [offset_eq_length h, Nat.zero_add]
  · intro i
    have hempty : text.toList ≠ [] ↔ text ≠ "" := not_congr String.toList_eq_nil_iff
    rw [← hempty]
    exact mem_starts_camelWords text.toList i

/-! ## The words of the underscore styles -/

theorem flatten_splitOn (separator : Char) (text : List Char) :
    (text.splitOn separator).flatten = text.filter (· != separator) := by
  induction text with
  | nil => rfl
  | cons c text ih =>
    rw [List.splitOn_cons_eq_if_modifyHead, List.filter_cons]
    obtain ⟨part, parts, hparts⟩ :=
      List.exists_cons_of_ne_nil (List.splitOn_ne_nil separator text)
    rw [hparts] at ih ⊢
    by_cases h : c = separator
    · simpa [h] using ih
    · simpa [h] using ih

/-- The words of a name have all its characters but the underscores. -/
theorem flatten_wordsOf (name : String) :
    (wordsOf name).flatten = name.toList.filter (· != '_') := by
  rw [← flatten_splitOn, wordsOf]
  induction name.toList.splitOn '_' with
  | nil => rfl
  | cons part parts ih =>
    rw [List.flatMap_cons, List.flatten_append, flatten_camelWords, ih, List.flatten_cons]

theorem ne_nil_of_mem_wordsOf {name : String} {word : List Char} (h : word ∈ wordsOf name) :
    word ≠ [] := by
  obtain ⟨part, -, hword⟩ := List.mem_flatMap.mp h
  exact ne_nil_of_mem_camelWords hword

theorem lowerText_ne_empty {text : String} (h : text ≠ "") : lowerText text ≠ "" := by
  obtain ⟨c, rest, htext⟩ :=
    List.exists_cons_of_ne_nil fun hnil => h (String.toList_eq_nil_iff.mp hnil)
  rw [lowerText, htext]
  refine fun hempty => List.append_ne_nil_of_left_ne_nil ?_ _ (String.ofList_eq_empty_iff.mp hempty)
  split
  -- a sigma is converted by its place in the word, but to one character in either case
  · split <;> exact List.cons_ne_nil _ _
  · obtain ⟨d, ds, hlower, -⟩ := lowercase_final c
    rw [hlower]
    exact List.cons_ne_nil d ds

theorem upperText_ne_empty {text : String} (h : text ≠ "") : upperText text ≠ "" := by
  obtain ⟨c, rest, htext⟩ :=
    List.exists_cons_of_ne_nil fun hnil => h (String.toList_eq_nil_iff.mp hnil)
  rw [upperText, htext, List.flatMap_cons]
  exact fun hempty => List.append_ne_nil_of_left_ne_nil (uppercase_chars c).1 _
    (String.ofList_eq_empty_iff.mp hempty)

/-- Whether texts are the words that the underscore styles convert and join for a name. -/
structure JoinedByUnderscores (name : String) (words : List String) : Prop where
  lower : Style.lowerUnderScore.convert name = "_".intercalate (words.map lowerText)
  upper : Style.upperUnderScore.convert name = "_".intercalate (words.map upperText)
  /-- They are the words of the parts between underscores. -/
  parts : words = (name.toList.splitOn '_').flatMap fun part =>
    (splitCamel (String.ofList part)).map Prod.snd
  join : String.join words = String.ofList (name.toList.filter (· != '_'))
  nonempty : ∀ word ∈ words, word ≠ "" ∧ lowerText word ≠ "" ∧ upperText word ≠ ""

theorem joinedByUnderscores_wordsOf (name : String) :
    JoinedByUnderscores name ((wordsOf name).map String.ofList) := by
  refine ⟨?_, ?_, ?_, ?_, ?_⟩
  · rw [List.map_map]
    rfl
  · rw [List.map_map]
    rfl
  · simp only [wordsOf, List.map_flatMap, splitCamel, map_snd_withOffsets, String.toList_ofList]
  · rw [join_map_ofList, flatten_wordsOf]
  · intro word hword
    obtain ⟨chars, hchars, rfl⟩ := List.mem_map.mp hword
    have hne : String.ofList chars ≠ "" := fun hempty =>
      ne_nil_of_mem_wordsOf hchars (String.ofList_eq_empty_iff.mp hempty)
    exact ⟨hne, lowerText_ne_empty hne, upperText_ne_empty hne⟩

/-- **A name is cut at its boundaries and nowhere else.** Its words are not empty, concatenate to
it, stand behind as many characters as their offsets say and start at its boundaries. So the words
that the underscore styles join are not empty either, and have all characters but the
underscores. -/
theorem splitCamel_cuts (name : String) :
    CutAtBoundaries name (splitCamel name) ∧
      JoinedByUnderscores name ((wordsOf name).map String.ofList) :=
  ⟨cutAtBoundaries_splitCamel name, joinedByUnderscores_wordsOf name⟩

/-- An acronym ends before its last letter, but only if a lower-case character follows; a letter
such as `ª` is in lower case, and one such as `ǅ` in neither case. -/
example : splitCamel "homeURLPath2ÄrgerIDªX_ǅB" =
    [(0, "home"), (4, "URL"), (7, "Path2"), (12, "Ärger"), (17, "I"), (18, "Dª"),
      (20, "X_ǅB")] := by
  decide +kernel

end DerivedQuery.Naming
