import DerivedQuery.Unicode.LetterCase
import DerivedQuery.Unicode.CaseMapping

/-!
# Words of a camel-case identifier

`findByURLName` consists of the words `find`, `By`, `URL`, `Name`. A word starts at an upper-case
character that follows a lower-case character or an ASCII digit, and at the last upper-case
character of an acronym when a lower-case character follows it (`isWordStart`). `camelWords` cuts
there and nowhere else, so its words concatenate to the text (`flatten_camelWords`) and none of
them is empty (`ne_nil_of_mem_camelWords`).

`decapitalize` and `capitalize` change the first character of a name.

Mirrors `split_camel`, `map_first`, `decapitalize` and `capitalize`; the words are cut first and
their offsets counted behind.
-/

namespace DerivedQuery.Naming

open DerivedQuery.Unicode

/-- Whether a word starts at `c`, when `before` precedes it and `after` is the next character. -/
def isWordStart (before c : Char) (after : Option Char) : Bool :=
  isUppercase c &&
    (isLowercase before || before.isDigit || (isUppercase before && after.any isLowercase))

/-- What is left of the word that `before` belongs to, and the words after it. -/
def cutAfter (before : Char) : List Char → List Char × List (List Char)
  | [] => ([], [])
  | c :: rest =>
    let (word, words) := cutAfter c rest
    if isWordStart before c rest.head? then ([], (c :: word) :: words) else (c :: word, words)

/-- The words of an identifier, in order. -/
def camelWords : List Char → List (List Char)
  | [] => []
  | c :: rest => let (word, words) := cutAfter c rest; (c :: word) :: words

/-- Every word with the number of characters before it, when `start` characters precede them all. -/
def withOffsets (start : Nat) : List (List Char) → List (Nat × String)
  | [] => []
  | word :: words => (start, String.ofList word) :: withOffsets (start + word.length) words

/-- The words of a text, each with its offset in characters. -/
def splitCamel (text : String) : List (Nat × String) := withOffsets 0 (camelWords text.toList)

theorem flatten_cutAfter (before : Char) (text : List Char) :
    (cutAfter before text).1 ++ (cutAfter before text).2.flatten = text := by
  induction text generalizing before with
  | nil => rfl
  | cons c rest ih =>
    simp only [cutAfter]
    split <;> simpa using ih c

theorem flatten_camelWords (text : List Char) : (camelWords text).flatten = text := by
  cases text with
  | nil => rfl
  | cons c rest => simpa [camelWords] using flatten_cutAfter c rest

theorem ne_nil_of_mem_cutAfter {before : Char} {text word : List Char}
    (h : word ∈ (cutAfter before text).2) : word ≠ [] := by
  induction text generalizing before with
  | nil => simp [cutAfter] at h
  | cons c rest ih =>
    simp only [cutAfter] at h
    split at h
    · rcases List.mem_cons.1 h with rfl | h
      · exact List.cons_ne_nil _ _
      · exact ih h
    · exact ih h

theorem ne_nil_of_mem_camelWords {text word : List Char} (h : word ∈ camelWords text) :
    word ≠ [] := by
  cases text with
  | nil => simp [camelWords] at h
  | cons c rest =>
    rcases List.mem_cons.1 h with rfl | h
    · exact List.cons_ne_nil _ _
    · exact ne_nil_of_mem_cutAfter h

/-- The text with its first character replaced by the characters `f` gives for it. -/
def mapFirst (f : Char → List Char) (text : String) : String :=
  match text.toList with
  | [] => ""
  | c :: rest => String.ofList (f c ++ rest)

/-- The name with its first character in lower case, unless its first two characters are both
upper case: a leading acronym stays as it is. -/
def decapitalize (name : String) : String :=
  match name.toList with
  | first :: second :: _ =>
    if isUppercase first && isUppercase second then name else mapFirst lowercase name
  | _ => mapFirst lowercase name

/-- The name with its first character in upper case. -/
def capitalize (name : String) : String := mapFirst uppercase name

end DerivedQuery.Naming
