import DerivedQuery.Proofs.Types.Signature
import Mathlib.Data.List.DropRight
import Mathlib.Logic.Function.Iterate

/-!
# The grammar of written types

The grammar is given apart from the readers: a syntax tree (`SyntaxTree`) has the terminals of its
phrase as its yield and stands for a type, and a text spells terminals with any blanks between
them (`Spells`), each name being as long as it can be.

A text spells one list of terminals (`Spells.unique`), and a tree is told from its yield even with
something behind it (`SyntaxTree.isTold`), so a text has one tree at most
(`SyntaxTree.eq_of_spells`).
-/

namespace DerivedQuery.Types

namespace TypeRef

open DerivedQuery.Unicode

/-! ## Terminals and their spelling -/

/-- The characters that are terminals by themselves. -/
def signs : List Char := ['?', '<', ',', '>', '[', ']']

/-- A terminal of the grammar. -/
inductive Terminal
  | sign (c : Char)
  | name (text : String)

/-- Whether a text is a run of characters of a name. -/
structure IsRun (name : String) : Prop where
  ne_empty : name ≠ ""
  chars : ∀ c ∈ name.toList, isNameChar c = true

theorem IsRun.toList_ne_nil {name : String} (h : IsRun name) : name.toList ≠ [] :=
  mt String.toList_eq_nil_iff.mp h.ne_empty

/-- Whether a name in front of the text ends there. -/
def NameEnds (text : List Char) : Prop := ∀ c, text.head? = some c → isNameChar c = false

/-- What is dropped is dropped to the end of its run. -/
theorem head_dropWhile (p : Char → Bool) (text : List Char) :
    ∀ c, (text.dropWhile p).head? = some c → p c = false := by
  intro c hc
  have hdrop := List.head?_dropWhile_not p text
  rw [hc] at hdrop
  simpa using hdrop

theorem nameEnds_readName (text : List Char) : NameEnds (readName text).2 :=
  head_dropWhile isNameChar text

/-- A name and what follows it make up the text. -/
theorem readName_append_rest (text : List Char) :
    (readName text).1.toList ++ (readName text).2 = text := by
  rw [readName, String.toList_ofList, List.takeWhile_append_dropWhile]

/-- The texts that spell terminals: blanks are free between them, and a name ends only where no
character of a name follows. -/
inductive Spells : List Terminal → List Char → Prop
  | nil : Spells [] []
  | blank {terminals : List Terminal} {c : Char} {text : List Char} (hblank : isBlank c = true)
      (h : Spells terminals text) : Spells terminals (c :: text)
  | sign {terminals : List Terminal} {c : Char} {text : List Char} (hsign : c ∈ signs)
      (h : Spells terminals text) : Spells (.sign c :: terminals) (c :: text)
  | name {terminals : List Terminal} {name : String} {text : List Char} (hname : IsRun name)
      (hends : NameEnds text) (h : Spells terminals text) :
      Spells (.name name :: terminals) (name.toList ++ text)

/-- A sign is neither blank nor a character of a name. -/
theorem apart_of_mem_signs {c : Char} (h : c ∈ signs) :
    isBlank c = false ∧ isNameChar c = false := by
  have hall : signs.all (fun c => !isBlank c && !isNameChar c) = true := by decide
  simpa using List.all_eq_true.mp hall c h

theorem skipBlanks_length_le (text : List Char) : (skipBlanks text).length ≤ text.length :=
  List.length_dropWhile_le _ text

theorem skipBlanks_skipBlanks (text : List Char) : skipBlanks (skipBlanks text) = skipBlanks text :=
  List.dropWhile_idempotent _ text

theorem skipBlanks_of_blank {c : Char} (h : isBlank c = true) (rest : List Char) :
    skipBlanks (c :: rest) = skipBlanks rest :=
  List.dropWhile_cons_of_pos h

theorem skipBlanks_of_sign {c : Char} (h : c ∈ signs) (rest : List Char) :
    skipBlanks (c :: rest) = c :: rest :=
  skipBlanks_of_head fun _ hc => by
    cases hc
    exact (apart_of_mem_signs h).1

theorem skipBlanks_of_run {name : String} (h : IsRun name) (rest : List Char) :
    skipBlanks (name.toList ++ rest) = name.toList ++ rest := by
  obtain ⟨c, cs, hcs, hc⟩ := exists_head h.ne_empty h.chars
  refine skipBlanks_of_head fun d hd => ?_
  rw [hcs] at hd
  cases hd
  exact isBlank_of_isNameChar hc

/-- A run does not start with a sign. -/
theorem IsRun.append_ne_sign {name : String} (h : IsRun name) {c : Char} (hc : c ∈ signs)
    (rest rest' : List Char) : name.toList ++ rest ≠ c :: rest' := by
  obtain ⟨d, ds, hds, hd⟩ := exists_head h.ne_empty h.chars
  intro heq
  rw [hds] at heq
  cases heq
  exact absurd hd (by simp [(apart_of_mem_signs hc).2])

/-- What stands in front of a text that spells terminals, blanks aside. -/
theorem Spells.front {terminals : List Terminal} {text : List Char} (h : Spells terminals text) :
    (terminals = [] ∧ skipBlanks text = []) ∨
      (∃ c others rest, terminals = .sign c :: others ∧ c ∈ signs ∧ skipBlanks text = c :: rest ∧
        Spells others rest) ∨
      ∃ name others rest, terminals = .name name :: others ∧ IsRun name ∧ NameEnds rest ∧
        skipBlanks text = name.toList ++ rest ∧ Spells others rest := by
  induction h with
  | nil => exact .inl ⟨rfl, rfl⟩
  | blank hblank _ ih => rwa [skipBlanks_of_blank hblank]
  | sign hsign h => exact .inr (.inl ⟨_, _, _, rfl, hsign, skipBlanks_of_sign hsign _, h⟩)
  | name hname hends h =>
    exact .inr (.inr ⟨_, _, _, rfl, hname, hends, skipBlanks_of_run hname _, h⟩)

theorem Spells.skipBlanks_eq_nil {text : List Char} (h : Spells [] text) :
    skipBlanks text = [] := by
  rcases h.front with ⟨-, hnil⟩ | ⟨_, _, _, hcons, -⟩ | ⟨_, _, _, hcons, -⟩
  · exact hnil
  · cases hcons
  · cases hcons

theorem Spells.behind_sign {c : Char} {terminals : List Terminal} {text : List Char}
    (h : Spells (.sign c :: terminals) text) :
    c ∈ signs ∧ ∃ rest, skipBlanks text = c :: rest ∧ Spells terminals rest := by
  rcases h.front with ⟨hnil, -⟩ | ⟨_, _, rest, hcons, hc, htext, hrest⟩ | ⟨_, _, _, hcons, -⟩
  · cases hnil
  · cases hcons
    exact ⟨hc, rest, htext, hrest⟩
  · cases hcons

theorem Spells.behind_name {name : String} {terminals : List Terminal} {text : List Char}
    (h : Spells (.name name :: terminals) text) :
    IsRun name ∧ ∃ rest, NameEnds rest ∧ skipBlanks text = name.toList ++ rest ∧
      Spells terminals rest := by
  rcases h.front with ⟨hnil, -⟩ | ⟨_, _, _, hcons, -⟩ |
    ⟨_, _, rest, hcons, hname, hends, htext, hrest⟩
  · cases hnil
  · cases hcons
  · cases hcons
    exact ⟨hname, rest, hends, htext, hrest⟩

/-- A text with a sign in front spells that sign first. -/
theorem Spells.of_sign {c : Char} (hc : c ∈ signs) {terminals : List Terminal}
    {text rest : List Char} (h : Spells terminals text) (htext : skipBlanks text = c :: rest) :
    ∃ others, terminals = .sign c :: others := by
  rcases h.front with ⟨-, hnil⟩ | ⟨_, others, _, rfl, -, hcons, -⟩ |
    ⟨_, _, rest', rfl, hname, -, happend, -⟩
  · rw [htext] at hnil
    cases hnil
  · rw [htext] at hcons
    cases hcons
    exact ⟨others, rfl⟩
  · exact absurd (happend.symm.trans htext) (hname.append_ne_sign hc rest' rest)

/-- Blanks in front of a text do not change what it spells. -/
theorem spells_skipBlanks {terminals : List Terminal} {text : List Char} :
    Spells terminals (skipBlanks text) ↔ Spells terminals text := by
  constructor
  · intro h
    induction text with
    | nil => exact h
    | cons c text ih =>
      by_cases hblank : isBlank c = true
      · rw [skipBlanks_of_blank hblank] at h
        exact (ih h).blank hblank
      · rwa [skipBlanks, List.dropWhile_cons_of_neg hblank] at h
  · intro h
    rcases h.front with ⟨rfl, hnil⟩ | ⟨_, _, _, rfl, hc, hcons, hrest⟩ |
      ⟨_, _, _, rfl, hname, hends, happend, hrest⟩
    · rw [hnil]
      exact .nil
    · rw [hcons]
      exact hrest.sign hc
    · rw [happend]
      exact hrest.name hname hends

/-- A text spells one list of terminals. -/
theorem Spells.unique {terminals terminals' : List Terminal} {text : List Char}
    (h : Spells terminals text) (h' : Spells terminals' text) : terminals = terminals' := by
  induction terminals generalizing terminals' text with
  | nil =>
    have hnil := h.skipBlanks_eq_nil
    rcases h'.front with ⟨rfl, -⟩ | ⟨_, _, _, -, -, hcons, -⟩ | ⟨_, _, _, -, hname, -, happend, -⟩
    · rfl
    · rw [hnil] at hcons
      cases hcons
    · rw [hnil] at happend
      exact absurd (List.append_eq_nil_iff.mp happend.symm).1 hname.toList_ne_nil
  | cons terminal terminals ih =>
    cases terminal with
    | sign c =>
      obtain ⟨hc, rest, htext, hrest⟩ := h.behind_sign
      obtain ⟨others, rfl⟩ := h'.of_sign hc htext
      obtain ⟨-, rest', htext', hrest'⟩ := h'.behind_sign
      cases htext.symm.trans htext'
      rw [ih hrest hrest']
    | name name =>
      obtain ⟨hname, rest, hends, htext, hrest⟩ := h.behind_name
      rcases h'.front with ⟨-, hnil⟩ | ⟨_, _, rest', -, hc, hcons, -⟩ |
        ⟨name', _, rest', rfl, hname', hends', htext', hrest'⟩
      · rw [htext] at hnil
        exact absurd (List.append_eq_nil_iff.mp hnil).1 hname.toList_ne_nil
      · exact absurd (htext.symm.trans hcons) (hname.append_ne_sign hc rest rest')
      · -- each of the two names is all of the run in front
        have hread := readName_append hname.chars hends
        rw [← htext, htext', readName_append hname'.chars hends'] at hread
        cases hread
        rw [ih hrest hrest']

/-! ## Syntax trees -/

/-- A way to derive a type from the grammar. -/
inductive SyntaxTree
  /-- A mark alone. -/
  | wildcard
  /-- A mark, the word `extends` and a type. -/
  | bounded (bound : SyntaxTree)
  /-- A name without arguments and the number of brackets behind it. -/
  | plain (name : String) (hname : IsRun name) (brackets : Nat)
  /-- A name that can take arguments, with one or more of them. -/
  | generic (name : String) (hname : IsName name) (first : SyntaxTree) (others : List SyntaxTree)
      (brackets : Nat)

/-- The terminals of some pairs of brackets. -/
def bracketYield : Nat → List Terminal
  | 0 => []
  | n + 1 => .sign '[' :: .sign ']' :: bracketYield n

/-- The type that a name without arguments stands for. -/
def named (name : String) : TypeRef :=
  if name = "void" then .void
  else if primitiveNames.contains name then .primitive name
  else .declared name []

namespace SyntaxTree

mutual

/-- The terminals that a tree derives. -/
def yield : SyntaxTree → List Terminal
  | .wildcard => [.sign '?']
  | .bounded bound => .sign '?' :: .name "extends" :: bound.yield
  | .plain name _ brackets => .name name :: bracketYield brackets
  | .generic name _ first others brackets =>
    .name name :: .sign '<' :: (first.yield ++ (othersYield others ++ bracketYield brackets))

/-- The terminals of the arguments after the first one, with the bracket that ends them. -/
def othersYield : List SyntaxTree → List Terminal
  | [] => [.sign '>']
  | next :: others => .sign ',' :: (next.yield ++ othersYield others)

end

/-- The terminals of all arguments, none of which there may be. -/
def argumentsYield : List SyntaxTree → List Terminal
  | [] => []
  | first :: others => .sign '<' :: (first.yield ++ othersYield others)

mutual

/-- The type that a tree stands for. -/
def type : SyntaxTree → TypeRef
  | .wildcard => .simple objectName
  | .bounded bound => bound.type
  | .plain name _ brackets => array^[brackets] (named name)
  | .generic name _ first others brackets =>
    array^[brackets] (.declared name (first.type :: types others))

/-- `type` of every tree of a list. -/
def types : List SyntaxTree → List TypeRef
  | [] => []
  | tree :: trees => tree.type :: types trees

end

theorem yield_ne_nil (tree : SyntaxTree) : tree.yield ≠ [] := by
  cases tree <;> exact List.cons_ne_nil _ _

/-- Induction over a tree, with the trees of its arguments at once. -/
@[elab_as_elim, induction_eliminator]
theorem inductionOn {motive : SyntaxTree → Prop} (tree : SyntaxTree) (wildcard : motive .wildcard)
    (bounded : ∀ bound, motive bound → motive (.bounded bound))
    (plain : ∀ name hname brackets, motive (.plain name hname brackets))
    (generic : ∀ name hname first others brackets, motive first → (∀ tree ∈ others, motive tree) →
      motive (.generic name hname first others brackets)) : motive tree :=
  @SyntaxTree.rec motive (fun trees => ∀ tree ∈ trees, motive tree) wildcard bounded plain
    generic (List.forall_mem_nil _) (fun _ _ h hs => List.forall_mem_cons.mpr ⟨h, hs⟩) tree

end SyntaxTree

/-! ## A text has one tree -/

/-- Whether terminals can stand behind a type: none, or those that end an argument. -/
def Closes (terminals : List Terminal) : Prop :=
  terminals = [] ∨ ∃ c others, (c = ',' ∨ c = '>') ∧ terminals = .sign c :: others

theorem Closes.ne_sign {terminals : List Terminal} (h : Closes terminals) {c : Char}
    (hc : c ≠ ',' ∧ c ≠ '>') (others : List Terminal) : terminals ≠ .sign c :: others := by
  rintro rfl
  rcases h with h | ⟨d, _, hd, h⟩
  · cases h
  · cases h
    rcases hd with rfl | rfl
    · exact hc.1 rfl
    · exact hc.2 rfl

theorem Closes.ne_name {terminals : List Terminal} (h : Closes terminals) (name : String)
    (others : List Terminal) : terminals ≠ .name name :: others := by
  rintro rfl
  rcases h with h | ⟨_, _, _, h⟩ <;> cases h

/-- The arguments after one, and the bracket that ends them, can stand behind it. -/
theorem closes_othersYield (trees : List SyntaxTree) (after : List Terminal) :
    Closes (SyntaxTree.othersYield trees ++ after) := by
  cases trees with
  | nil => exact .inr ⟨'>', after, .inr rfl, rfl⟩
  | cons next others =>
    exact .inr ⟨',', next.yield ++ SyntaxTree.othersYield others ++ after, .inl rfl, rfl⟩

/-- Neither a bracket of an array nor what is behind a type opens arguments. -/
theorem bracketYield_ne_open {n : Nat} {after : List Terminal} (hafter : Closes after)
    (others : List Terminal) : bracketYield n ++ after ≠ .sign '<' :: others := by
  cases n with
  | zero => exact hafter.ne_sign (by decide) others
  | succ n => exact fun h => by cases h

section

variable {after after' : List Terminal}

theorem bracketYield_cancel {n m : Nat} (hafter : Closes after) (hafter' : Closes after')
    (h : bracketYield n ++ after = bracketYield m ++ after') : n = m ∧ after = after' := by
  induction n generalizing m with
  | zero =>
    cases m with
    | zero => exact ⟨rfl, h⟩
    | succ m => exact absurd h (hafter.ne_sign (by decide) _)
  | succ n ih =>
    cases m with
    | zero => exact absurd h.symm (hafter'.ne_sign (by decide) _)
    | succ m =>
      obtain ⟨rfl, hrest⟩ := ih (List.cons.inj (List.cons.inj h).2).2
      exact ⟨rfl, hrest⟩

namespace SyntaxTree

/-- Whether a tree is told from what it derives, with anything behind it that can be there. -/
def IsTold (tree : SyntaxTree) : Prop :=
  ∀ {tree' : SyntaxTree} {after after' : List Terminal}, Closes after → Closes after' →
    tree.yield ++ after = tree'.yield ++ after' → tree = tree' ∧ after = after'

theorem othersYield_cancel {trees trees' : List SyntaxTree} (htrees : ∀ tree ∈ trees, tree.IsTold)
    (h : othersYield trees ++ after = othersYield trees' ++ after') :
    trees = trees' ∧ after = after' := by
  induction trees generalizing trees' with
  | nil =>
    cases trees' with
    | nil => exact ⟨rfl, (List.cons.inj h).2⟩
    | cons tree' trees' => cases h
  | cons tree trees ih =>
    obtain ⟨htree, htrees⟩ := List.forall_mem_cons.mp htrees
    cases trees' with
    | nil => cases h
    | cons tree' trees' =>
      have happend := (List.cons.inj h).2
      rw [List.append_eq, List.append_eq, List.append_assoc, List.append_assoc] at happend
      obtain ⟨rfl, hothers⟩ := htree (closes_othersYield _ _) (closes_othersYield _ _) happend
      obtain ⟨rfl, hafter⟩ := ih htrees hothers
      exact ⟨rfl, hafter⟩

theorem isTold (tree : SyntaxTree) : tree.IsTold := by
  induction tree with
  | wildcard =>
    intro tree' after after' hafter hafter' h
    cases tree' with
    | wildcard => exact ⟨rfl, (List.cons.inj h).2⟩
    | bounded =>
      -- no name stands behind a type
      exact absurd (List.cons.inj h).2 (hafter.ne_name _ _)
    | plain => cases h
    | generic => cases h
  | bounded bound ih =>
    intro tree' after after' hafter hafter' h
    cases tree' with
    | wildcard => exact absurd (List.cons.inj h).2.symm (hafter'.ne_name _ _)
    | bounded bound' =>
      obtain ⟨rfl, heq⟩ := ih hafter hafter' (List.cons.inj (List.cons.inj h).2).2
      exact ⟨rfl, heq⟩
    | plain => cases h
    | generic => cases h
  | plain name hname brackets =>
    intro tree' after after' hafter hafter' h
    cases tree' with
    | wildcard => cases h
    | bounded => cases h
    | plain name' hname' brackets' =>
      obtain ⟨hhead, htail⟩ := List.cons.inj h
      cases hhead
      obtain ⟨rfl, heq⟩ := bracketYield_cancel hafter hafter' htail
      exact ⟨rfl, heq⟩
    | generic => exact absurd (List.cons.inj h).2 (bracketYield_ne_open hafter _)
  | generic name hname first others brackets ihFirst ihOthers =>
    intro tree' after after' hafter hafter' h
    cases tree' with
    | wildcard => cases h
    | bounded => cases h
    | plain => exact absurd (List.cons.inj h).2.symm (bracketYield_ne_open hafter' _)
    | generic name' hname' first' others' brackets' =>
      obtain ⟨hhead, htail⟩ := List.cons.inj h
      cases hhead
      have happend := (List.cons.inj htail).2
      rw [List.append_eq, List.append_eq, List.append_assoc, List.append_assoc, List.append_assoc,
        List.append_assoc] at happend
      obtain ⟨rfl, hothers⟩ :=
        ihFirst (closes_othersYield _ _) (closes_othersYield _ _) happend
      obtain ⟨rfl, hbrackets⟩ := othersYield_cancel ihOthers hothers
      obtain ⟨rfl, heq⟩ := bracketYield_cancel hafter hafter' hbrackets
      exact ⟨rfl, heq⟩

/-- A text is derived by one tree at most. -/
theorem eq_of_spells {tree tree' : SyntaxTree} {text : List Char} (h : Spells tree.yield text)
    (h' : Spells tree'.yield text) : tree = tree' :=
  (tree.isTold (.inl rfl) (.inl rfl) (congrArg (· ++ []) (h.unique h'))).1

end SyntaxTree

end

end TypeRef

end DerivedQuery.Types
