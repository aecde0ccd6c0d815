import DerivedQuery.MethodName.Lexer

/-!
# Cutting a name in context

A name is cut into camel words by looking at neighbouring characters, so a part of a name can be cut
differently in it than on its own. It is cut as on its own where what stands behind the part starts
a word (`WordFollows`) or is an underscore:

> `pieces_append`, `pieces_append_underscore`: the pieces of the name are those of the part, then
> those of what stands behind it.
-/

namespace DerivedQuery.Naming

open DerivedQuery.Unicode

/-- Behind a text that ends in `last`, a word starts at `rest`, and its first character is none that
would have started a word inside the text. -/
def WordFollows (last : Char) (rest : List Char) : Prop :=
  ∃ c tail, rest = c :: tail ∧ isLowercase c = false ∧ isWordStart last c tail.head? = true

/-- The next character only matters for a word start if it is lower case. -/
theorem isWordStart_of_not_lowercase {before c d : Char} (h : isLowercase d = false) :
    isWordStart before c (some d) = isWordStart before c none := by
  unfold isWordStart
  rw [Option.any_some, Option.any_none, h]

theorem cutAfter_cons (before c : Char) (rest : List Char) :
    cutAfter before (c :: rest) =
      if isWordStart before c rest.head? then
        ([], (c :: (cutAfter c rest).1) :: (cutAfter c rest).2)
      else (c :: (cutAfter c rest).1, (cutAfter c rest).2) := rfl

/-- A text in front of a word start is cut after its first character as on its own. -/
theorem cutAfter_append {before last : Char} {text rest : List Char}
    (hlast : (before :: text).getLast? = some last) (h : WordFollows last rest) :
    cutAfter before (text ++ rest) =
      ((cutAfter before text).1, (cutAfter before text).2 ++ camelWords rest) := by
  obtain ⟨c, tail, rfl, hlower, hstart⟩ := h
  induction text generalizing before with
  | nil =>
    obtain rfl : before = last := by simpa using hlast
    show cutAfter before (c :: tail) = ([], [] ++ camelWords (c :: tail))
    rw [cutAfter_cons, if_pos hstart]
    rfl
  | cons d text ih =>
    have hd : (d :: text).getLast? = some last := by rwa [List.getLast?_cons_cons] at hlast
    -- the decision at `d` is the same with `rest` behind it
    have hsame : isWordStart before d (text ++ c :: tail).head? =
        isWordStart before d text.head? := by
      cases text with
      | nil => exact isWordStart_of_not_lowercase hlower
      | cons e text => rfl
    rw [List.cons_append, cutAfter_cons, cutAfter_cons, hsame, ih hd]
    by_cases hcut : isWordStart before d text.head? = true
    · rw [if_pos hcut, if_pos hcut, List.cons_append]
    · rw [if_neg hcut, if_neg hcut]

/-- A text in front of a word start is cut as on its own. -/
theorem camelWords_append {last : Char} {text rest : List Char}
    (hlast : text.getLast? = some last) (h : WordFollows last rest) :
    camelWords (text ++ rest) = camelWords text ++ camelWords rest := by
  cases text with
  | nil => cases hlast
  | cons c text =>
    show camelWords (c :: (text ++ rest)) = _
    rw [camelWords, cutAfter_append hlast h]
    rfl

end DerivedQuery.Naming

namespace DerivedQuery.MethodName

open DerivedQuery Naming Unicode

/-- The camel words of a text. -/
def words (text : List Char) : List String := (camelWords text).map String.ofList

/-- The pieces of a text: its words and underscores. -/
def pieces (text : List Char) : List Piece :=
  [Piece.underscore].intercalate ((text.splitOn '_').map fun part => (words part).map Piece.word)

/-- The pieces of a name are those of its characters. -/
theorem piecesOf_eq (name : String) : piecesOf name = pieces name.toList := by
  unfold piecesOf pieces words
  simp only [List.map_map, Function.comp_def]

/-- The words of a text concatenate to it. -/
theorem flatMap_words (text : List Char) : (words text).flatMap String.toList = text := by
  unfold words
  rw [List.flatMap_map]
  simp only [String.toList_ofList, List.flatMap_id']
  exact flatten_camelWords text

theorem pieces_of_not_mem {text : List Char} (h : '_' ∉ text) :
    pieces text = (words text).map Piece.word := by
  unfold pieces
  rw [List.splitOn_eq_singleton h, List.map_singleton, List.intercalate_singleton]

/-- An underscore is a piece of its own. -/
theorem pieces_append_underscore {text : List Char} (h : '_' ∉ text) (rest : List Char) :
    pieces (text ++ '_' :: rest) =
      (words text).map Piece.word ++ Piece.underscore :: pieces rest := by
  unfold pieces
  rw [List.splitOn_append_cons_self_of_not_mem h, List.map_cons,
    List.intercalate_cons_of_ne_nil (by simp), List.append_assoc, List.singleton_append]

/-- The word at the front of a text also starts without what stands behind the next underscore. -/
theorem wordFollows_of_append_underscore {last : Char} {text rest : List Char}
    (h : WordFollows last (text ++ '_' :: rest)) : WordFollows last text := by
  obtain ⟨c, tail, heq, hlower, hstart⟩ := h
  cases text with
  | nil =>
    -- no word starts with an underscore
    obtain rfl : '_' = c := (List.cons.inj heq).1
    exact absurd hstart (by simp [isWordStart, isUppercase_of_ascii])
  | cons d text =>
    obtain ⟨rfl, rfl⟩ := List.cons.inj heq
    refine ⟨d, text, rfl, hlower, ?_⟩
    cases text with
    | nil =>
      have hbar : isLowercase '_' = false := by decide
      exact (isWordStart_of_not_lowercase hbar).symm.trans hstart
    | cons e text => exact hstart

/-- A text without underscores in front of a word start has the pieces it has on its own. -/
theorem pieces_append {last : Char} {text rest : List Char} (h : '_' ∉ text)
    (hlast : text.getLast? = some last) (hfollows : WordFollows last rest) :
    pieces (text ++ rest) = (words text).map Piece.word ++ pieces rest := by
  have hwords : ∀ part, WordFollows last part →
      (words (text ++ part)).map Piece.word =
        (words text).map Piece.word ++ (words part).map Piece.word := by
    intro part hpart
    unfold words
    rw [camelWords_append hlast hpart, List.map_append, List.map_append]
  by_cases hmem : '_' ∈ rest
  · obtain ⟨part, tail, rfl, hpart⟩ := List.eq_append_cons_of_mem hmem
    have hnot : '_' ∉ text ++ part := by
      rw [List.mem_append]
      exact not_or.mpr ⟨h, hpart⟩
    rw [← List.append_assoc, pieces_append_underscore hnot, pieces_append_underscore hpart,
      hwords part (wordFollows_of_append_underscore hfollows), List.append_assoc]
  · have hnot : '_' ∉ text ++ rest := by
      rw [List.mem_append]
      exact not_or.mpr ⟨h, hmem⟩
    rw [pieces_of_not_mem hnot, pieces_of_not_mem hmem, hwords rest hfollows]

end DerivedQuery.MethodName
