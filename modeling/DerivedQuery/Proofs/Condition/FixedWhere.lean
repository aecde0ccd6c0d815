import DerivedQuery.Proofs.Condition.Pruning
import DerivedQuery.Proofs.Condition.Truth
import DerivedQuery.Proofs.Statement.Fragments

/-!
# The condition of a statement without selective parts

A predicate without selective parts is written out once and for all. What is written is a sequence
of symbols: conditions, connectives and parentheses (`append_fixed`). `whereBody_holds` says that a
database, for which `AND` binds tighter than `OR`, reads the predicate from it.
-/

namespace DerivedQuery

open Expression

/-- What a symbol is written as. A condition is one symbol, whatever it is written with. -/
def Symbol.body (column : PropertyPath → String) : Symbol (Comparison × Nat) → Body
  | .atom c => c.1.body column
  | .connective op => [.text (" " ++ op.keyword ++ " ")]
  | .opening => [.text "("]
  | .closing => [.text ")"]

/-- The conditions among symbols, each with its place. -/
def Symbol.atoms {α : Type} (s : List (Symbol α)) : List α :=
  s.filterMap fun
    | .atom a => some a
    | _ => none

namespace Expression

variable {α : Type}

mutual

/-- The conditions in a written expression are its leaves. -/
theorem atoms_symbols (e : Expression α) : Symbol.atoms e.symbols = e.leaves := by
  match e with
  | leaf a => rfl
  | group op members =>
    obtain ⟨hjoined, -⟩ := atoms_joinedSymbols op members
    rw [symbols, leaves, ← hjoined]
    simp [Symbol.atoms]

theorem atoms_joinedSymbols (op : Connective) (es : List (Expression α)) :
    Symbol.atoms (joinedSymbols op es) = leavesAll es ∧
      Symbol.atoms (ledSymbols op es) = leavesAll es := by
  match es with
  | [] => exact ⟨rfl, rfl⟩
  | e :: es =>
    have he := atoms_symbols e
    obtain ⟨-, hes⟩ := atoms_joinedSymbols op es
    unfold Symbol.atoms at he hes ⊢
    constructor
    · rw [joinedSymbols, List.filterMap_append, he, hes, leavesAll]
    · rw [ledSymbols, List.filterMap_cons, List.filterMap_append, he, hes, leavesAll]

end

/-- The conditions in an expression that is written on its own are its leaves. -/
theorem atoms_topSymbols (e : Expression α) : Symbol.atoms e.topSymbols = e.leaves := by
  cases e with
  | leaf a => rfl
  | group op members => exact (atoms_joinedSymbols op members).1

end Expression

namespace Clause

variable {column : PropertyPath → String}

mutual

/-- A clause inside a group is written as the symbols of its expression. -/
theorem append_fixed (c : Clause) (before : Body) (first : Nat) :
    before.append (c.fixed column true) =
      before.append ((c.numbered first).symbols.flatMap (Symbol.body column)) := by
  match c with
  | leaf condition operands mark =>
    rw [fixed, numbered, symbols, List.flatMap_singleton]
    rfl
  | group op mark children =>
    have hchildren := append_fixedAll children (before.push (.text "(")) first op
    rw [fixed, numbered, symbols, if_pos rfl, Body.append_push, Body.append_append]
    show ((before.push (.text "(")).append (fixedAll column op children)).push (.text ")") = _
    rw [hchildren, List.flatMap_cons, List.flatMap_append, List.flatMap_singleton,
      Body.append_concat, Body.append_concat]
    rfl

/-- The members of a group are written as their symbols, with connectives between them. -/
theorem append_fixedAll (cs : List Clause) (before : Body) (first : Nat) (op : Connective) :
    before.append (fixedAll column op cs) =
      before.append ((joinedSymbols op (numberedAll first cs)).flatMap (Symbol.body column)) := by
  match cs with
  | [] => rfl
  | [c] =>
    have hc := append_fixed c before first
    rw [fixedAll, hc, numberedAll, numberedAll, joinedSymbols, ledSymbols, List.append_nil]
  | c :: d :: cs =>
    have hc := append_fixed c before first
    have hcs := append_fixedAll (d :: cs)
      ((before.append (c.fixed column true)).push (.text (" " ++ op.keyword ++ " ")))
      (first + c.comparisons.length) op
    -- the connective stands between the first member and the others
    have hsymbols : joinedSymbols op (numberedAll first (c :: d :: cs)) =
        (c.numbered first).symbols ++ .connective op ::
          joinedSymbols op (numberedAll (first + c.comparisons.length) (d :: cs)) := rfl
    have hfixed : fixedAll column op (c :: d :: cs) =
        Body.append (Body.push (c.fixed column true) (.text (" " ++ op.keyword ++ " ")))
          (fixedAll column op (d :: cs)) := rfl
    rw [hfixed, hsymbols, Body.append_append, Body.append_push, hcs, hc, List.flatMap_append,
      List.flatMap_cons, Body.append_concat]
    rfl

end

/-- A clause on its own is written without parentheses around all of it. -/
theorem append_fixed_top (c : Clause) (before : Body) (first : Nat) :
    before.append (c.fixed column false) =
      before.append ((c.numbered first).topSymbols.flatMap (Symbol.body column)) := by
  cases c with
  | leaf condition operands mark => exact append_fixed (.leaf condition operands mark) before first
  | group op mark children =>
    rw [fixed, if_neg (by decide), append_fixedAll children before first op]
    rfl

end Clause

/-- **What is written is what the predicate means.** Without selective parts, the condition of a
statement is `WHERE` and a sequence of symbols, in its fragments as well as in its written form. In
this sequence every condition stands once, with the operands of its place and in the order of the
predicate, and parentheses are balanced. A database can read it, and whichever of the conditions
hold, what it reads holds if the predicate does. -/
theorem whereBody_holds {p : Predicate} {operands : List (List String)}
    (column : PropertyPath → String) (hfixed : p.hasSelective = false)
    (hlength : operands.length = p.conditions.length) :
    ∃ (s : List (Symbol (Comparison × Nat))) (e : Expression (Comparison × Nat)),
      whereBody column p operands =
        Body.append [.text " WHERE "] (s.flatMap (Symbol.body column)) ∧
      renderBody (whereBody column p operands) =
        " WHERE " ++ String.join (s.map fun x => renderBody (x.body column)) ∧
      Symbol.atoms s = (List.zipWith Comparison.mk p.conditions operands).zipIdx ∧
      WellFormed s ∧ read s = some e ∧
      ∀ truth : Nat → Bool, e.holds (fun x => truth x.2) = p.holds truth 0 := by
  have hfull : ((p.assigned operands).numbered 0).Full :=
    (holds_numbered p operands fun _ => true).1
  have hread := read_topSymbols hfull
  have hbody : whereBody column p operands = Body.append [.text " WHERE "]
      (((p.assigned operands).numbered 0).topSymbols.flatMap (Symbol.body column)) := by
    rw [whereBody, hfixed, ← Clause.append_fixed_top]
    rfl
  refine ⟨_, _, hbody, ?_, ?_, wellFormed_of_read hread, hread, fun truth => ?_⟩
  · rw [hbody, renderBody_append, renderBody_flatMap]
    rfl
  · rw [atoms_topSymbols, Clause.leaves_numbered, comparisons_assigned hlength]
  · rw [holds_simplified]
    exact (holds_numbered p operands truth).2

/-- `a` or `b` between two values, together with no `c` and with `a` once more. -/
def eitherWithTwoMore : Predicate :=
  .binary .and
    (.binary .or (.condition ⟨⟨["a"]⟩, .equal⟩) (.condition ⟨⟨["b"]⟩, .between⟩))
    (.binary .and (.condition ⟨⟨["c"]⟩, .isNull⟩) (.condition ⟨⟨["a"]⟩, .equal⟩))

/-- The alternatives stand in parentheses, the chain nested on the right does not, and the
condition that stands there twice is two conditions. -/
theorem whereBody_holds_either :
    let operands := [["a"], ["low", "high"], [], ["again"]]
    eitherWithTwoMore.hasSelective = false ∧
      operands.length = eitherWithTwoMore.conditions.length ∧
      renderBody (whereBody PropertyPath.dotted eitherWithTwoMore operands) =
        " WHERE (a = #{a} OR b BETWEEN #{low} AND #{high}) AND c IS NULL AND " ++
          "a = #{again}" ∧
      ∃ (s : List (Symbol (Comparison × Nat))) (e : Expression (Comparison × Nat)),
        whereBody PropertyPath.dotted eitherWithTwoMore operands =
          Body.append [.text " WHERE "] (s.flatMap (Symbol.body PropertyPath.dotted)) ∧
        read s = some e ∧ ∀ truth : Nat → Bool,
          e.holds (fun x => truth x.2) =
            ((truth 0 || truth 1) && (truth 2 && truth 3)) := by
  intro operands
  have hlength : operands.length = eitherWithTwoMore.conditions.length := rfl
  obtain ⟨s, e, hbody, -, -, -, hread, hholds⟩ :=
    whereBody_holds PropertyPath.dotted (p := eitherWithTwoMore) rfl hlength
  exact ⟨rfl, hlength, by decide, s, e, hbody, hread, hholds⟩

end DerivedQuery
