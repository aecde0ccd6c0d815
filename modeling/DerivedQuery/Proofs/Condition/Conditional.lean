import DerivedQuery.Proofs.Condition.Pruning

/-!
# Clauses with parts that drop out, at run time

Every part of a clause but the first carries its connective in front of it, and which part comes
to stand first is known only at run time: the rule around a group strips the connective there.
`unled` is that stripping on words, and it does nothing to a part without a connective as long as
no condition starts with one (`Runtime.Opaque`).

> `words_conditional`, `words_conditionalAll`: the parts come out as the words of what is left of
> them after pruning, each behind its connective.

A group is stripped at the place where its own parts are known; so the two statements are proved
together, one for a part with the connective it may carry and one for the parts of a group, with
and without a connective in front of the first.
-/

namespace DerivedQuery

open Expression

/-! ## The connective that is stripped -/

theorem keyword_ne_nil (op : Connective) : op.keyword.toList ≠ [] := by
  cases op <;> decide

theorem blank_notMem_keyword (op : Connective) : ' ' ∉ op.keyword.toList := by
  cases op <;> decide

/-- The words without a connective in front of other words. -/
def unled : List (List Char) → List (List Char)
  | word :: next :: others =>
    if word = Connective.and.keyword.toList ∨ word = Connective.or.keyword.toList then
      next :: others
    else word :: next :: others
  | words => words

theorem unled_of_ne {word : List Char} (words : List (List Char))
    (hand : word ≠ Connective.and.keyword.toList) (hor : word ≠ Connective.or.keyword.toList) :
    unled (word :: words) = word :: words := by
  cases words with
  | nil => rfl
  | cons next others => simp [unled, hand, hor]

/-- A connective is stripped from the words behind it. -/
theorem unled_keyword (op : Connective) (next : List Char) (others : List (List Char)) :
    unled (op.keyword.toList :: next :: others) = next :: others := by
  cases op <;> simp [unled]

/-- What an override of a connective does to a trimmed text that starts with it, and when it
does. -/
theorem override_trimBlanks (op : Connective) (t : List Char) :
    ((op.keyword ++ " ").toList.isPrefixOf (trimBlanks t) = true ↔
        ∃ next others, blankWords t = op.keyword.toList :: next :: others) ∧
      ((op.keyword ++ " ").toList.isPrefixOf (trimBlanks t) = true →
        blankWords t = op.keyword.toList ::
          blankWords ((trimBlanks t).drop (op.keyword ++ " ").toList.length)) := by
  have hne := keyword_ne_nil op
  have hblank := blank_notMem_keyword op
  have htext : (op.keyword ++ " ").toList = op.keyword.toList ++ [' '] := by
    rw [String.toList_append]
    rfl
  rw [htext, List.isPrefixOf_iff_prefix]
  refine ⟨word_prefix_trimBlanks_iff hne hblank, ?_⟩
  rintro ⟨s, hs⟩
  rw [← hs, List.drop_left]
  rw [List.append_assoc, List.singleton_append] at hs
  exact blankWords_of_word_prefix hne hblank hs.symm

/-- Stripping the overrides from a trimmed text strips the connective from its words. -/
theorem blankWords_stripFirst (t : List Char) :
    blankWords (stripFirst Clause.connectiveOverrides (trimBlanks t)) = unled (blankWords t) := by
  obtain ⟨hand, handdrop⟩ := override_trimBlanks .and t
  obtain ⟨hor, hordrop⟩ := override_trimBlanks .or t
  change ("AND ".toList.isPrefixOf (trimBlanks t) = true ↔ _) at hand
  change ("OR ".toList.isPrefixOf (trimBlanks t) = true ↔ _) at hor
  unfold stripFirst Clause.connectiveOverrides
  rw [List.find?_cons, List.find?_cons, List.find?_nil]
  cases h₁ : "AND ".toList.isPrefixOf (trimBlanks t) with
  | true =>
    obtain ⟨next, others, hwords⟩ := hand.mp h₁
    have hrest := handdrop h₁
    rw [hwords, List.cons.injEq] at hrest
    rw [hwords, unled_keyword]
    exact hrest.2.symm
  | false =>
    cases h₂ : "OR ".toList.isPrefixOf (trimBlanks t) with
    | true =>
      obtain ⟨next, others, hwords⟩ := hor.mp h₂
      have hrest := hordrop h₂
      rw [hwords, List.cons.injEq] at hrest
      rw [hwords, unled_keyword]
      exact hrest.2.symm
    | false =>
      rw [h₁, iff_comm] at hand
      rw [h₂, iff_comm] at hor
      show blankWords (trimBlanks t) = _
      rw [blankWords_trimBlanks]
      match hwords : blankWords t with
      | [] => rfl
      | [word] => rfl
      | word :: next :: others =>
        have hand' : word ≠ Connective.and.keyword.toList := fun h =>
          absurd (hand.mp ⟨next, others, by rw [hwords, h]⟩) (by decide)
        have hor' : word ≠ Connective.or.keyword.toList := fun h =>
          absurd (hor.mp ⟨next, others, by rw [hwords, h]⟩) (by decide)
        rw [unled_of_ne _ hand' hor']

/-- The words of a text between others. -/
theorem blankWords_enclose (opening closing : String) (t : List Char) :
    blankWords (enclose opening closing t) =
      blankWords opening.toList ++ blankWords t ++ blankWords closing.toList := by
  unfold enclose
  split
  case isTrue ho =>
    rw [String.isEmpty_iff.mp ho]
    split
    case isTrue hc =>
      rw [String.isEmpty_iff.mp hc]
      simp
    case isFalse => simp [blankWords_append_blank]
  case isFalse =>
    split
    case isTrue hc =>
      rw [String.isEmpty_iff.mp hc]
      simp [blankWords_append_blank]
    case isFalse => simp [blankWords_append_blank]

/-- The words of a group's text once it is trimmed: none for a blank text. -/
theorem blankWords_apply (opening closing : String) (t : List Char) :
    blankWords ((TrimRule.mk opening closing Clause.connectiveOverrides []).apply t) =
      if blankWords t = [] then []
      else blankWords opening.toList ++ unled (blankWords t) ++ blankWords closing.toList := by
  unfold TrimRule.apply
  simp only [List.isEmpty_iff, trimBlanks_eq_nil_iff]
  split
  · rfl
  · rw [blankWords_enclose, stripLast, List.find?_nil, blankWords_stripFirst]

/-! ## Conditions as opaque symbols -/

/-- The words that compare a column with operands. -/
def operatorWords : List String :=
  ["=", "!=", ">", ">=", "<", "<=", "LIKE", "NOT", "IN", "IS", "BETWEEN"]

/-- An operator is a word of its own, and no connective. -/
theorem operatorWords_spec : ∀ op ∈ operatorWords,
    op.toList ≠ [] ∧ ' ' ∉ op.toList ∧ op.toList ≠ Connective.and.keyword.toList ∧
      op.toList ≠ Connective.or.keyword.toList := by
  decide

namespace Runtime

variable (rt : Runtime) (column : PropertyPath → String)

/-- A condition can be taken as one symbol: its text does not start with a connective that a
group around it would strip. -/
def Opaque (c : Comparison) : Prop :=
  ∀ o ∈ Clause.connectiveOverrides, ¬ o.toList <+: trimBlanks (rt.text (c.body column))

/-- The words a symbol is written as, those of a condition as it comes out at run time. -/
def symbolWords : Symbol Comparison → List (List Char)
  | .atom c => blankWords (rt.text (c.body column))
  | .connective op => [op.keyword.toList]
  | .opening => ["(".toList]
  | .closing => [")".toList]

/-- The words symbols are written as. -/
def words (s : List (Symbol Comparison)) : List (List Char) := s.flatMap (rt.symbolWords column)

variable {rt column}

@[simp] theorem words_nil : rt.words column [] = [] := rfl

@[simp] theorem words_cons (x : Symbol Comparison) (s : List (Symbol Comparison)) :
    rt.words column (x :: s) = rt.symbolWords column x ++ rt.words column s := List.flatMap_cons

@[simp] theorem words_append (s t : List (Symbol Comparison)) :
    rt.words column (s ++ t) = rt.words column s ++ rt.words column t := List.flatMap_append

end Runtime

/-- Every condition is written as its column, an operator and more. -/
theorem Condition.exists_operator (c : Condition) (column : String) (operands : List String) :
    ∃ op ∈ operatorWords, ∃ tail rest,
      c.body column operands = .text (column ++ (" " ++ op ++ " " ++ tail)) :: rest := by
  obtain ⟨path, comparator⟩ := c
  have hbinary : ∀ op : String,
      column ++ " " ++ op ++ " " = column ++ (" " ++ op ++ " " ++ "") := by
    intro op
    simp [String.append_assoc]
  cases comparator
  case equal => exact ⟨"=", by decide, "", _, by rw [← hbinary]; rfl⟩
  case not => exact ⟨"!=", by decide, "", _, by rw [← hbinary]; rfl⟩
  case greaterThan => exact ⟨">", by decide, "", _, by rw [← hbinary]; rfl⟩
  case greaterThanEqual => exact ⟨">=", by decide, "", _, by rw [← hbinary]; rfl⟩
  case lessThan => exact ⟨"<", by decide, "", _, by rw [← hbinary]; rfl⟩
  case lessThanEqual => exact ⟨"<=", by decide, "", _, by rw [← hbinary]; rfl⟩
  case like => exact ⟨"LIKE", by decide, "", _, by rw [← hbinary]; rfl⟩
  case notLike =>
    have hnot : " " ++ "NOT" ++ " " ++ "LIKE " = " " ++ "NOT LIKE" ++ " " ++ "" := rfl
    exact ⟨"NOT", by decide, "LIKE ", _, by rw [hnot, ← hbinary]; rfl⟩
  case containing => exact ⟨"LIKE", by decide, "CONCAT('%', ", _, rfl⟩
  case startingWith => exact ⟨"LIKE", by decide, "CONCAT(", _, rfl⟩
  case endingWith => exact ⟨"LIKE", by decide, "CONCAT('%', ", _, rfl⟩
  case «in» => exact ⟨"IN", by decide, "", _, rfl⟩
  case notIn => exact ⟨"NOT", by decide, "IN ", _, rfl⟩
  case isNull => exact ⟨"IS", by decide, "NULL", _, rfl⟩
  case isNotNull => exact ⟨"IS", by decide, "NOT NULL", _, rfl⟩
  case between => exact ⟨"BETWEEN", by decide, "", _, rfl⟩

namespace Runtime

variable {rt : Runtime} {column : PropertyPath → String}

/-- The text of an opaque condition has words, and the first one is no connective. -/
theorem Opaque.exists_first_word {c : Comparison} (h : rt.Opaque column c) :
    ∃ word others, rt.symbolWords column (.atom c) = word :: others ∧
      word ≠ Connective.and.keyword.toList ∧ word ≠ Connective.or.keyword.toList := by
  obtain ⟨op, hop, tail, rest, hbody⟩ :=
    c.condition.exists_operator (column c.condition.path) c.operands
  obtain ⟨hopne, hopblank, hopand, hopor⟩ := operatorWords_spec op hop
  -- the words are those of the column, the operator, and more
  have hwords : rt.symbolWords column (.atom c) =
      blankWords (column c.condition.path).toList ++
        op.toList :: blankWords (tail.toList ++ rt.flat rest) := by
    rw [symbolWords, blankWords_text, Comparison.body, hbody, flat_cons, flatFragment]
    simp only [String.toList_append, List.append_assoc]
    rw [show " ".toList = [' '] from rfl, List.singleton_append, blankWords_append_blank,
      List.singleton_append, blankWords_append_blank, blankWords_of_not_mem hopne hopblank,
      List.singleton_append]
  rw [hwords]
  cases hcolumn : blankWords (column c.condition.path).toList with
  | nil => exact ⟨_, _, rfl, hopand, hopor⟩
  | cons word others =>
    rw [hcolumn, List.cons_append] at hwords
    -- a column that is a connective would be stripped together with the blank behind it
    have hfirst : ∀ op' : Connective, (op'.keyword ++ " ") ∈ Clause.connectiveOverrides →
        word ≠ op'.keyword.toList := by
      intro op' hmem heq
      refine h _ hmem (List.isPrefixOf_iff_prefix.mp ((override_trimBlanks op' _).1.mpr ?_))
      rw [symbolWords, heq] at hwords
      rw [hwords]
      cases others with
      | nil => exact ⟨_, _, rfl⟩
      | cons next others => exact ⟨_, _, rfl⟩
    exact ⟨_, _, rfl, hfirst .and (by decide), hfirst .or (by decide)⟩

/-- The words of what is left of a clause do not start with a connective. -/
theorem exists_first_word {e : Expression Comparison} (h : ∀ c ∈ e.leaves, rt.Opaque column c) :
    ∃ word others, rt.words column e.symbols = word :: others ∧
      word ≠ Connective.and.keyword.toList ∧ word ≠ Connective.or.keyword.toList := by
  cases e with
  | leaf c =>
    obtain ⟨word, others, hwords, hand, hor⟩ := (h c (by simp [leaves])).exists_first_word
    exact ⟨word, others, by simp [symbols, hwords], hand, hor⟩
  | group op members =>
    exact ⟨"(".toList, _, rfl, by decide, by decide⟩

/-! ## Parts of a group, and groups -/

/-- A part under a test comes out as if the test were not there, or not at all. -/
theorem blankWords_guarded {names : List String} (hdec : rt.Decides names) (selective : Bool)
    {operands : List String} (hnames : ∀ n ∈ operands, n ∈ names) (body : Body) :
    blankWords (rt.flat (Clause.guarded selective operands body)) =
      if Clause.drops rt.present selective operands then [] else blankWords (rt.flat body) := by
  have hany : (operands.any fun n => !rt.present n) = !operands.all rt.present := by
    rw [List.not_all_eq_any_not]
  unfold Clause.guarded Clause.drops
  rw [hany]
  cases selective with
  | false => rfl
  | true =>
    cases operands with
    | nil => rfl
    | cons n ns =>
      have hholds := hdec (n :: ns) (List.cons_ne_nil n ns) hnames
      simp only [Bool.true_and, List.isEmpty_cons, Bool.not_false, if_true, flat_cons, flat_nil,
        flatFragment, hholds]
      cases (n :: ns).all rt.present <;> simp

theorem head?_guarded (selective : Bool) (operands : List String) {body : Body}
    (h : ∀ ch ∈ (rt.flat body).head?, ch = ' ') :
    ∀ ch ∈ (rt.flat (Clause.guarded selective operands body)).head?, ch = ' ' := by
  unfold Clause.guarded
  split
  · simp [flatFragment]
  · exact h

theorem head?_conditional (c : Clause) (op : Connective) :
    ∀ ch ∈ (rt.flat (c.conditional column (some op))).head?, ch = ' ' := by
  cases c with
  | leaf condition operands selective =>
    refine head?_guarded selective operands ?_
    simp [flatFragment]
  | group op' selective children =>
    refine head?_guarded selective _ ?_
    simp [flatFragment]

theorem head?_conditionalAll (cs : List Clause) (op : Connective) :
    ∀ ch ∈ (rt.flat (Clause.conditionalAll column op (some op) cs)).head?, ch = ' ' := by
  induction cs with
  | nil => simp [Clause.conditionalAll]
  | cons c cs ih =>
    intro ch hch
    rw [Clause.conditionalAll, flat_append, List.head?_append, Option.mem_def,
      Option.or_eq_some_iff] at hch
    rcases hch with hfirst | ⟨-, hothers⟩
    · exact head?_conditional c op ch hfirst
    · exact ih ch hothers

/-- The connective in front of a part, as words. -/
def leadWords : Option Connective → List (List Char)
  | none => []
  | some op => [op.keyword.toList]

/-- The words in front of a group that comes out. -/
theorem blankWords_leadText (lead : Option Connective) :
    blankWords (Clause.leadText lead ++ "(").toList = leadWords lead ++ ["(".toList] := by
  cases lead with
  | none => decide
  | some op => cases op <;> decide

mutual

/-- A part comes out as what is left of it, behind its connective, and as nothing if nothing is
left. -/
theorem words_conditional {names : List String} (hdec : rt.Decides names) (c : Clause)
    (hnames : ∀ n ∈ c.operands, n ∈ names) (hatoms : ∀ x ∈ c.comparisons, rt.Opaque column x)
    (lead : Option Connective) :
    blankWords (rt.flat (c.conditional column lead)) =
      (c.prune rt.present).elim [] fun e => leadWords lead ++ rt.words column e.symbols := by
  match c with
  | .leaf condition operands selective =>
    have hoperands : ∀ n ∈ operands, n ∈ names := hnames
    have hbody : blankWords (rt.flat (condition.body (column condition.path) operands)) =
        rt.words column (symbols (leaf ⟨condition, operands⟩)) := by
      rw [← blankWords_text]
      exact (List.append_nil _).symm
    cases lead with
    | none =>
      show blankWords (rt.flat (Clause.guarded selective operands _)) = _
      rw [blankWords_guarded hdec selective hoperands, Clause.prune]
      split
      · rfl
      · exact hbody
    | some op =>
      show blankWords (rt.flat (Clause.guarded selective operands _)) = _
      rw [blankWords_guarded hdec selective hoperands, Clause.prune]
      split
      · rfl
      · show _ = op.keyword.toList :: rt.words column (symbols (leaf ⟨condition, operands⟩))
        rw [← hbody, flat_append, flat_cons, flat_nil, List.append_nil, flatFragment]
        simp only [String.toList_append, List.append_assoc]
        rw [show " ".toList = [' '] from rfl, List.singleton_append, List.singleton_append,
          blankWords_blank_cons, blankWords_append_blank,
          blankWords_of_not_mem (keyword_ne_nil op) (blank_notMem_keyword op)]
        rfl
  | .group op selective children =>
    have hoperands : ∀ n ∈ operandsAll children, n ∈ names := hnames
    obtain ⟨-, hjoined, hnone⟩ := words_conditionalAll hdec children hnames hatoms op
    -- the parentheses and the connective belong to the trimmed part and are gone with its text
    have htrim : blankWords (rt.flat
        [.trim ⟨Clause.leadText lead ++ "(", ")", Clause.connectiveOverrides, []⟩
          (Clause.conditionalAll column op none children)]) =
        if blankWords (rt.flat (Clause.conditionalAll column op none children)) = [] then []
        else leadWords lead ++ ["(".toList] ++
          rt.words column (joinedSymbols op (Clause.pruneAll rt.present children)) ++
          [")".toList] := by
      rw [flat_cons, flat_nil, List.append_nil, flatFragment, blankWords_blank_cons,
        blankWords_concat_blank, blankWords_apply, blankWords_text, hjoined, blankWords_leadText]
      rfl
    show blankWords (rt.flat (Clause.guarded selective _ _)) = _
    rw [blankWords_guarded hdec selective hoperands, Clause.prune, htrim]
    split
    · rfl
    · split
      case isTrue h =>
        rw [hnone.mp h]
        rfl
      case isFalse h =>
        cases hp : Clause.pruneAll rt.present children with
        | nil => exact absurd (hnone.mpr hp) h
        | cons e es => simp [symbols, symbolWords]

/-- The parts of a group come out as what is left of them. -/
theorem words_conditionalAll {names : List String} (hdec : rt.Decides names) (cs : List Clause)
    (hnames : ∀ n ∈ operandsAll cs, n ∈ names)
    (hatoms : ∀ x ∈ Clause.comparisonsAll cs, rt.Opaque column x) (op : Connective) :
    blankWords (rt.flat (Clause.conditionalAll column op (some op) cs)) =
        rt.words column (ledSymbols op (Clause.pruneAll rt.present cs)) ∧
      unled (blankWords (rt.flat (Clause.conditionalAll column op none cs))) =
        rt.words column (joinedSymbols op (Clause.pruneAll rt.present cs)) ∧
      (blankWords (rt.flat (Clause.conditionalAll column op none cs)) = [] ↔
        Clause.pruneAll rt.present cs = []) := by
  match cs with
  | [] => exact ⟨rfl, rfl, by simp [Clause.conditionalAll, Clause.pruneAll]⟩
  | c :: cs =>
    have hnames' : (∀ n ∈ c.operands, n ∈ names) ∧ ∀ n ∈ operandsAll cs, n ∈ names :=
      List.forall_mem_append.mp hnames
    obtain ⟨hatomsc, hatomscs⟩ := List.forall_mem_append.mp hatoms
    have hc := words_conditional hdec c hnames'.1 hatomsc
    obtain ⟨hled, -⟩ := words_conditionalAll hdec cs hnames'.2 hatomscs op
    -- nothing runs into the connective in front of the second part
    have happend : ∀ lead, blankWords (rt.flat (Clause.conditionalAll column op lead (c :: cs))) =
        ((c.prune rt.present).elim [] fun e => leadWords lead ++ rt.words column e.symbols) ++
          rt.words column (ledSymbols op (Clause.pruneAll rt.present cs)) := by
      intro lead
      rw [Clause.conditionalAll, flat_append, blankWords_append (head?_conditionalAll cs op), hc,
        hled]
    rw [happend, happend, Clause.pruneAll]
    cases hp : c.prune rt.present with
    | some e =>
      have he : ∀ x ∈ e.leaves, rt.Opaque column x := fun x hx =>
        hatomsc x (Clause.mem_comparisons_of_mem_leaves hp hx)
      obtain ⟨word, others, hwords, hand, hor⟩ := exists_first_word he
      refine ⟨by simp [ledSymbols, symbolWords, leadWords], ?_, ?_⟩
      · simp [joinedSymbols, leadWords, hwords, unled_of_ne _ hand hor]
      · simp [leadWords, hwords]
    | none =>
      -- the first part is gone, so the connective of the next one is what gets stripped
      refine ⟨by simp, ?_, ?_⟩
      · cases hps : Clause.pruneAll rt.present cs with
        | nil => rfl
        | cons e es =>
          have he : ∀ x ∈ e.leaves, rt.Opaque column x := fun x hx =>
            hatomscs x (Clause.mem_comparisonsAll_of_mem_leaves (hps ▸ List.mem_cons_self) hx)
          obtain ⟨word, others, hwords, -⟩ := exists_first_word he
          simp [joinedSymbols, ledSymbols, symbolWords, hwords, unled_keyword]
      · cases Clause.pruneAll rt.present cs <;> simp [ledSymbols, symbolWords]

end

end Runtime

end DerivedQuery
