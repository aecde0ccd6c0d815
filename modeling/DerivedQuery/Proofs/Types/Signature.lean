import DerivedQuery.Proofs.Types.Variables
import DerivedQuery.Proofs.Except
import DerivedQuery.Types.Signature
import Mathlib.Data.List.TakeWhile

/-!
# Types and their written form

What can be read is a type whose names are names (`readable_of_parse`), and every such type is read
from its written form (`parse_print`). Blanks and wildcards of a text are gone then, so the written
form of what was read need not be the text it was read from, but it is read as the same type.

The readers take a bound on the nesting. Reading a written form takes no more steps than it has
characters (`readType_print`).
-/

namespace DerivedQuery.Types

namespace TypeRef

open DerivedQuery.Unicode

/-! ## Characters -/

/-- The runs in which the blank characters from U+0080 on lie. -/
def blankRuns : List (Nat × Nat) := [(0x85, 0x85), (0xA0, 0xA0), (0x1680, 0x1680), (0x2000, 0x200A),
  (0x2028, 0x202F), (0x205F, 0x205F), (0x3000, 0x3000)]

/-- Letters and numbers lie apart from those runs. -/
theorem alphanumeric_apart : ((alphabeticStrides ++ numericStrides).all fun d =>
    blankRuns.all fun run => Nat.blt d.last run.1 || Nat.blt run.2 d.first) = true := by
  decide +kernel

/-- A character of a name is not blank. -/
theorem isBlank_of_isNameChar {c : Char} (h : isNameChar c = true) : isBlank c = false := by
  simp only [isNameChar, Bool.or_eq_true, beq_iff_eq] at h
  rcases h with ((h | rfl) | rfl) | rfl
  · by_cases hascii : c.val < 0x80
    · have hletter : ∀ n : Fin 128, (Char.ofNat n).isAlphanum = true →
          isBlank (Char.ofNat n) = false := by
        decide
      have hblank := hletter ⟨c.toNat, UInt32.lt_iff_toNat_lt.mp hascii⟩
      rw [Char.ofNat_toNat] at hblank
      rw [isAlphanumeric_of_ascii hascii] at h
      exact hblank h
    · rw [isAlphanumeric, if_neg hascii, Stride.cover, Stride.cover, ← List.any_append,
        List.any_eq_true] at h
      obtain ⟨d, hd, hcovers⟩ := h
      simp only [Stride.covers, Bool.and_eq_true, decide_eq_true_eq] at hcovers
      have hapart := List.all_eq_true.mp alphanumeric_apart d hd
      have hlarge : ¬c.toNat < 0x80 := fun hlt => hascii (UInt32.lt_iff_toNat_lt.mpr hlt)
      simp only [blankRuns, List.all_cons, List.all_nil, Bool.and_true, Bool.and_eq_true,
        Bool.or_eq_true, Nat.blt_eq] at hapart
      simp only [isBlank, Bool.or_eq_false_iff, Bool.and_eq_false_iff, decide_eq_false_iff_not,
        beq_eq_false_iff_ne]
      omega
  · rfl
  · rfl
  · rfl

theorem skipBlanks_of_head {text : List Char}
    (h : ∀ c, text.head? = some c → isBlank c = false) : skipBlanks text = text := by
  cases text with
  | nil => rfl
  | cons c rest => exact List.dropWhile_cons_of_neg (by simp [h c rfl])

/-- Whether a text can follow a type without becoming part of its name or its arguments, nor
starting with a blank. -/
def Follows (rest : List Char) : Prop :=
  ∀ c, rest.head? = some c → isNameChar c = false ∧ isBlank c = false ∧ c ≠ '<'

theorem follows_nil : Follows [] := fun c h => by cases h

theorem follows_cons {c : Char} (h : c = '[' ∨ c = ',' ∨ c = '>') (rest : List Char) :
    Follows (c :: rest) := by
  rintro _ ⟨⟩
  rcases h with rfl | rfl | rfl <;> decide

theorem Follows.name_ends {rest : List Char} (h : Follows rest) :
    ∀ c, rest.head? = some c → isNameChar c = false :=
  fun c hc => (h c hc).1

theorem Follows.skipBlanks {rest : List Char} (h : Follows rest) :
    TypeRef.skipBlanks rest = rest :=
  skipBlanks_of_head fun c hc => (h c hc).2.1

/-! ## What can be read -/

/-- Whether a text is the name of a declared type. -/
structure IsName (name : String) : Prop where
  ne_empty : name ≠ ""
  chars : ∀ c ∈ name.toList, isNameChar c = true
  ne_void : name ≠ "void"
  not_primitive : name ∉ primitiveNames

/-- Whether a type is one that can be written out. -/
inductive Readable : TypeRef → Prop
  | primitive {name : String} (h : name ∈ primitiveNames) : Readable (.primitive name)
  | void : Readable .void
  | array {element : TypeRef} (h : Readable element) : Readable (.array element)
  | declared {name : String} {args : List TypeRef} (hname : IsName name)
    (hargs : ∀ a ∈ args, Readable a) : Readable (.declared name args)

theorem isName_objectName : IsName objectName :=
  ⟨by decide, List.all_eq_true.mp (by decide), by decide, by decide⟩

theorem primitiveNames_chars :
    ∀ name ∈ primitiveNames,
      name ≠ "" ∧ name ≠ "void" ∧ ∀ c ∈ name.toList, isNameChar c = true := by
  have hall : ∀ name ∈ primitiveNames,
      name ≠ "" ∧ name ≠ "void" ∧ name.toList.all isNameChar = true := by
    decide
  intro name hname
  obtain ⟨hempty, hvoid, hchars⟩ := hall name hname
  exact ⟨hempty, hvoid, List.all_eq_true.mp hchars⟩

theorem readName_chars (text : List Char) :
    ∀ c ∈ (readName text).1.toList, isNameChar c = true := by
  rw [readName, String.toList_ofList]
  exact fun c hc => List.mem_takeWhile_imp hc

/-- Brackets behind a type that can be written out make it arrays that can be. -/
theorem Readable.of_readBrackets {steps : Nat} {type t : TypeRef} {text rest : List Char}
    (h : type.Readable) (hread : readBrackets steps type text = .ok (t, rest)) : t.Readable := by
  induction steps generalizing type text with
  | zero =>
    cases hread
    exact h
  | succ steps ih =>
    rw [readBrackets] at hread
    split at hread
    · obtain ⟨inner, -, hread⟩ := bind_eq_ok.mp hread
      exact ih h.array hread
    · cases hread
      exact h

/-- What the readers read can be written out, whatever the bound. -/
theorem readable_of_read (steps : Nat) :
    (∀ {text rest t}, readType steps text = .ok (t, rest) → t.Readable) ∧
      (∀ {text rest args}, readArguments steps text = .ok (args, rest) →
        ∀ a ∈ args, a.Readable) ∧
      ∀ {text rest args}, readMoreArguments steps text = .ok (args, rest) →
        ∀ a ∈ args, a.Readable := by
  induction steps with
  | zero =>
    refine ⟨?_, ?_, ?_⟩ <;> intro _ _ _ h <;> cases h
  | succ steps ih =>
    obtain ⟨ihType, ihArguments, ihMore⟩ := ih
    refine ⟨?_, ?_, ?_⟩
    · intro text rest t h
      rw [readType] at h
      split at h
      · -- a wildcard is its bound
        dsimp only at h
        split at h
        · cases h
          exact .declared isName_objectName (List.forall_mem_nil _)
        · split at h
          · exact ihType h
          · cases h
      · dsimp only at h
        split at h
        · cases h
        next hempty =>
          split at h
          · exact Readable.void.of_readBrackets h
          next hvoid =>
            split at h
            next hprimitive =>
              exact (Readable.primitive (by simpa using hprimitive)).of_readBrackets h
            next hprimitive =>
              obtain ⟨⟨args, rest'⟩, hargs, h⟩ := bind_eq_ok.mp h
              have hname : IsName (readName (skipBlanks text)).1 :=
                ⟨hempty, readName_chars _, hvoid, by simpa using hprimitive⟩
              exact (Readable.declared hname (ihArguments hargs)).of_readBrackets h
    · intro text rest args h
      rw [readArguments] at h
      split at h
      · obtain ⟨⟨first, rest₁⟩, hfirst, h⟩ := bind_eq_ok.mp h
        obtain ⟨⟨others, rest₂⟩, hothers, h⟩ := bind_eq_ok.mp h
        cases h
        exact List.forall_mem_cons.mpr ⟨ihType hfirst, ihMore hothers⟩
      · cases h
        exact List.forall_mem_nil _
    · intro text rest args h
      rw [readMoreArguments] at h
      split at h
      · obtain ⟨⟨next, rest₁⟩, hnext, h⟩ := bind_eq_ok.mp h
        obtain ⟨⟨others, rest₂⟩, hothers, h⟩ := bind_eq_ok.mp h
        cases h
        exact List.forall_mem_cons.mpr ⟨ihType hnext, ihMore hothers⟩
      · obtain ⟨rest', -, h⟩ := bind_eq_ok.mp h
        cases h
        exact List.forall_mem_nil _

/-- What is read can be written out. -/
theorem readable_of_parse {signature : String} {t : TypeRef}
    (h : parse signature = .ok t) : t.Readable := by
  unfold parse at h
  split at h
  · cases h
  · split at h
    · cases h
    next hread =>
      split at h
      · cases h
        exact (readable_of_read _).1 hread
      · cases h

/-! ## Reading the written form -/

theorem readName_append {name : String} (hname : ∀ c ∈ name.toList, isNameChar c = true)
    {rest : List Char} (hrest : ∀ c, rest.head? = some c → isNameChar c = false) :
    readName (name.toList ++ rest) = (name, rest) := by
  have hstop : rest.takeWhile isNameChar = [] ∧ rest.dropWhile isNameChar = rest := by
    cases rest with
    | nil => exact ⟨rfl, rfl⟩
    | cons c rest =>
      have hc := hrest c rfl
      exact ⟨List.takeWhile_cons_of_neg (by simp [hc]), List.dropWhile_cons_of_neg (by simp [hc])⟩
  rw [readName, List.takeWhile_append_of_pos hname, List.dropWhile_append_of_pos hname, hstop.1,
    hstop.2, List.append_nil, String.ofList_toList]

theorem exists_head {name : String} (hempty : name ≠ "")
    (hname : ∀ c ∈ name.toList, isNameChar c = true) :
    ∃ c cs, name.toList = c :: cs ∧ isNameChar c = true := by
  obtain ⟨c, cs, hcs⟩ := List.exists_cons_of_ne_nil (mt String.toList_eq_nil_iff.mp hempty)
  exact ⟨c, cs, hcs, hname c (by rw [hcs]; exact .head _)⟩

/-- A written name is not taken for a wildcard and has no blank in front of it. -/
theorem readType_name {name : String} (hempty : name ≠ "")
    (hname : ∀ c ∈ name.toList, isNameChar c = true) {rest : List Char}
    (hrest : ∀ c, rest.head? = some c → isNameChar c = false) (steps : Nat) :
    readType (steps + 1) (name.toList ++ rest) =
      if name = "void" then readBrackets steps .void rest
      else if primitiveNames.contains name then readBrackets steps (.primitive name) rest
      else readArguments steps rest >>= fun found =>
        readBrackets steps (.declared name found.1) found.2 := by
  obtain ⟨c, cs, hcs, hc⟩ := exists_head hempty hname
  have hskip : TypeRef.skipBlanks (name.toList ++ rest) = name.toList ++ rest := by
    refine skipBlanks_of_head fun d hd => ?_
    rw [hcs] at hd
    cases hd
    exact isBlank_of_isNameChar hc
  have hmark : ∀ after, name.toList ++ rest ≠ '?' :: after := by
    intro after h
    rw [hcs] at h
    cases h
    exact absurd hc (by decide)
  rw [readType, hskip]
  split
  · exact absurd ‹_› (hmark _)
  · rw [readName_append hname hrest]
    simp only [if_neg hempty]

theorem readType_blank (steps : Nat) (text : List Char) :
    readType (steps + 1) (' ' :: text) = readType (steps + 1) text := by
  have hskip : TypeRef.skipBlanks (' ' :: text) = TypeRef.skipBlanks text :=
    List.dropWhile_cons_of_pos (by decide)
  rw [readType, readType, hskip]

/-- No brackets follow. -/
theorem readBrackets_of_head (steps : Nat) (type : TypeRef) {rest : List Char}
    (hrest : Follows rest) (h : rest.head? ≠ some '[') :
    readBrackets steps type rest = .ok (type, rest) := by
  cases steps with
  | zero => rfl
  | succ steps =>
    rw [readBrackets, hrest.skipBlanks]
    split
    · exact absurd rfl h
    · rfl

theorem readBrackets_pair (steps : Nat) (type : TypeRef) (rest : List Char) :
    readBrackets (steps + 1) type ('[' :: ']' :: rest) = readBrackets steps (.array type) rest :=
  rfl

/-- What follows an argument. -/
theorem follows_printRest (args : List TypeRef) (rest : List Char) :
    Follows ((printRest args).toList ++ '>' :: rest) ∧
      ((printRest args).toList ++ '>' :: rest).head? ≠ some '[' := by
  cases args with
  | nil => exact ⟨follows_cons (.inr (.inr rfl)) rest, by simp [printRest]⟩
  | cons a args =>
    rw [printRest, String.append_assoc, String.toList_append, List.append_assoc]
    exact ⟨follows_cons (.inr (.inl rfl)) _, by simp⟩

/-- Whether the written form of a type is read as it, up to the brackets that follow. Each step of
the reader takes at least one character. -/
def ReadsBack (t : TypeRef) : Prop :=
  ∀ {rest : List Char} {steps : Nat}, Follows rest → t.print.toList.length < steps →
    ∃ left, steps ≤ left + t.print.toList.length ∧
      readType steps (t.print.toList ++ rest) = readBrackets left t rest

/-- An argument is read up to the comma or the bracket after it. -/
theorem ReadsBack.argument {t : TypeRef} (h : t.ReadsBack) (args : List TypeRef)
    (rest : List Char) {steps : Nat} (hsteps : t.print.toList.length < steps) :
    readType steps (t.print.toList ++ ((printRest args).toList ++ '>' :: rest)) =
      .ok (t, (printRest args).toList ++ '>' :: rest) := by
  obtain ⟨hfollows, hhead⟩ := follows_printRest args rest
  obtain ⟨left, -, hread⟩ := h hfollows hsteps
  rw [hread, readBrackets_of_head left t hfollows hhead]

theorem readMoreArguments_print {args : List TypeRef} (h : ∀ a ∈ args, a.ReadsBack)
    (rest : List Char) {steps : Nat} (hsteps : (printRest args).toList.length < steps) :
    readMoreArguments steps ((printRest args).toList ++ '>' :: rest) = .ok (args, rest) := by
  induction args generalizing steps with
  | nil =>
    obtain ⟨steps, rfl⟩ := Nat.exists_eq_succ_of_ne_zero (Nat.ne_zero_of_lt hsteps)
    rfl
  | cons a args ih =>
    obtain ⟨ha, hargs⟩ := List.forall_mem_cons.mp h
    have htext : (printRest (a :: args)).toList =
        ',' :: ' ' :: (a.print.toList ++ (printRest args).toList) := by
      simp [printRest]
    rw [htext] at hsteps ⊢
    simp only [List.length_cons, List.length_append] at hsteps
    obtain ⟨steps, rfl⟩ : ∃ s, steps = s + 2 := ⟨steps - 2, by omega⟩
    have hfirst : readType (steps + 1) _ = _ := ha.argument args rest (by omega)
    have hothers : readMoreArguments (steps + 1) _ = _ := ih hargs (by omega)
    have htext : ',' :: ' ' :: (a.print.toList ++ (printRest args).toList) ++ '>' :: rest =
        ',' :: ' ' :: (a.print.toList ++ ((printRest args).toList ++ '>' :: rest)) := by
      simp
    rw [htext, readMoreArguments, skipBlanks_of_head fun c hc => by cases hc; rfl]
    refine bind_eq_ok.mpr ⟨_, (readType_blank _ _).trans hfirst, ?_⟩
    exact bind_eq_ok.mpr ⟨_, hothers, rfl⟩

/-- A type that can be written out is read from its written form. -/
theorem Readable.readsBack {t : TypeRef} (h : t.Readable) : t.ReadsBack := by
  induction h with
  | @primitive name hname =>
    intro rest steps hrest hsteps
    obtain ⟨steps, rfl⟩ := Nat.exists_eq_succ_of_ne_zero (Nat.ne_zero_of_lt hsteps)
    obtain ⟨hempty, hvoid, hchars⟩ := primitiveNames_chars name hname
    refine ⟨steps, ?_, ?_⟩
    · have hlen := List.length_pos_of_ne_nil (mt String.toList_eq_nil_iff.mp hempty)
      simp only [print]
      omega
    · rw [print, readType_name hempty hchars hrest.name_ends, if_neg hvoid,
        if_pos (by simpa using hname)]
  | void =>
    intro rest steps hrest hsteps
    obtain ⟨steps, rfl⟩ := Nat.exists_eq_succ_of_ne_zero (Nat.ne_zero_of_lt hsteps)
    refine ⟨steps, ?_, ?_⟩
    · simp [print]
    · have hchars : "void".toList.all isNameChar = true := by decide
      rw [print, readType_name (by decide) (List.all_eq_true.mp hchars) hrest.name_ends, if_pos rfl]
  | @array element _ ih =>
    intro rest steps hrest hsteps
    have htext : (TypeRef.array element).print.toList = element.print.toList ++ ['[', ']'] := by
      simp [print]
    rw [htext] at hsteps ⊢
    simp only [List.length_append, List.length_cons, List.length_nil] at hsteps ⊢
    obtain ⟨left, hleft, hread⟩ := @ih ('[' :: ']' :: rest) steps (follows_cons (.inl rfl) _)
      (by omega)
    obtain ⟨left, rfl⟩ : ∃ k, left = k + 1 := ⟨left - 1, by omega⟩
    refine ⟨left, by omega, ?_⟩
    rw [List.append_assoc]
    exact hread.trans (readBrackets_pair left element rest)
  | @declared name args hname hargs ih =>
    intro rest steps hrest hsteps
    have hlen := List.length_pos_of_ne_nil (mt String.toList_eq_nil_iff.mp hname.ne_empty)
    have hprimitive : ¬primitiveNames.contains name = true := by
      simpa using hname.not_primitive
    cases args with
    | nil =>
      rw [print] at hsteps ⊢
      obtain ⟨steps, rfl⟩ : ∃ s, steps = s + 2 := ⟨steps - 2, by omega⟩
      refine ⟨steps + 1, by omega, ?_⟩
      rw [readType_name hname.ne_empty hname.chars hrest.name_ends, if_neg hname.ne_void,
        if_neg hprimitive]
      have hnone : readArguments (steps + 1) rest = .ok ([], rest) := by
        rw [readArguments, hrest.skipBlanks]
        split
        next h => exact absurd rfl (hrest '<' rfl).2.2
        next => rfl
      rw [hnone]
      rfl
    | cons a args =>
      obtain ⟨ha, ihargs⟩ := List.forall_mem_cons.mp ih
      have htext : (TypeRef.declared name (a :: args)).print.toList = name.toList ++
          '<' :: (a.print.toList ++ ((printRest args).toList ++ ['>'])) := by
        simp [print]
      rw [htext] at hsteps ⊢
      simp only [List.length_append, List.length_cons, List.length_nil] at hsteps ⊢
      obtain ⟨steps, rfl⟩ : ∃ s, steps = s + 2 := ⟨steps - 2, by omega⟩
      refine ⟨steps + 1, by omega, ?_⟩
      have hends : ∀ c,
          ('<' :: (a.print.toList ++ ((printRest args).toList ++ '>' :: rest))).head? = some c →
            isNameChar c = false := by
        rintro _ ⟨⟩
        decide
      have hinner : readArguments (steps + 1)
          ('<' :: (a.print.toList ++ ((printRest args).toList ++ '>' :: rest))) =
            .ok (a :: args, rest) := by
        rw [readArguments, skipBlanks_of_head fun c hc => by cases hc; rfl]
        refine bind_eq_ok.mpr ⟨_, ha.argument args rest (by omega), ?_⟩
        exact bind_eq_ok.mpr ⟨_, readMoreArguments_print ihargs rest (by omega), rfl⟩
      have hrests : name.toList ++ '<' :: (a.print.toList ++ ((printRest args).toList ++ ['>'])) ++
          rest = name.toList ++
            '<' :: (a.print.toList ++ ((printRest args).toList ++ '>' :: rest)) := by
        simp
      rw [hrests, readType_name hname.ne_empty hname.chars hends, if_neg hname.ne_void,
        if_neg hprimitive, hinner]
      rfl

/-- A written type starts with a character of a name. -/
theorem Readable.head {t : TypeRef} (h : t.Readable) :
    ∃ c cs, t.print.toList = c :: cs ∧ isNameChar c = true := by
  induction h with
  | @primitive name hname =>
    obtain ⟨hempty, -, hchars⟩ := primitiveNames_chars name hname
    exact exists_head hempty hchars
  | void => exact ⟨'v', ['o', 'i', 'd'], rfl, by decide⟩
  | array _ ih =>
    obtain ⟨c, cs, hcs, hc⟩ := ih
    exact ⟨c, cs ++ ['[', ']'], by simp [print, hcs], hc⟩
  | @declared name args hname _ _ =>
    obtain ⟨c, cs, hcs, hc⟩ := exists_head hname.ne_empty hname.chars
    cases args with
    | nil => exact ⟨c, cs, hcs, hc⟩
    | cons a args =>
      refine ⟨c, cs ++ '<' :: (a.print.toList ++ ((printRest args).toList ++ ['>'])), ?_, hc⟩
      simp [print, hcs]

/-- A type that can be written out is what its written form is read as. -/
theorem Readable.parse_print {t : TypeRef} (h : t.Readable) : parse t.print = .ok t := by
  obtain ⟨c, cs, htext, hc⟩ := h.head
  have hskip : skipBlanks t.print.toList = c :: cs := by
    rw [htext]
    exact skipBlanks_of_head fun d hd => by cases hd; exact isBlank_of_isNameChar hc
  obtain ⟨left, -, hread⟩ := h.readsBack follows_nil (Nat.lt_succ_self _)
  have hall : readType ((c :: cs).length + 1) (c :: cs) = .ok (t, []) := by
    rwa [List.append_nil, readBrackets_of_head left t follows_nil (by simp), htext] at hread
  simp only [parse, hskip, hall]
  rfl

end TypeRef

end DerivedQuery.Types
