import DerivedQuery.Proofs.Condition.Assignment

/-!
# What a statement refers to

A statement refers to values that are bound in its text and to collections that a part of it is
repeated for. `references` reads these from a body in the order of the text, whatever parts may
drop out at run time; inside a repeated part there is only the element at hand, which is not an
operand. The condition of a statement refers to the operands of its conditions, one after another
and each exactly once (`references_whereBody`), as long as every condition has as many operands as
it needs.

The last section is about the operands that are written where one is missing: a condition with as
many operands as it needs does without them (`body?_of_arity`), and so does handing out operands
(`assign?_groups`).
-/

namespace DerivedQuery

/-- What a statement refers to by a name. -/
inductive Reference
  /-- A value bound in the text. -/
  | value (name : String)
  /-- A collection that a part is repeated for. -/
  | collection (name : String)
deriving DecidableEq, Repr

/-- The name of a value or collection. -/
def Reference.name : Reference → String
  | value name | collection name => name

mutual

/-- What a fragment refers to, in the order of the text. -/
def Fragment.references : Fragment → List Reference
  | .text _ => []
  | .param name => [.value name]
  | .when _ body => Body.references body
  | .trim _ body => Body.references body
  | .forEach rule _ => [.collection rule.collection]

/-- What a body refers to, in the order of the text. -/
def Body.references : List Fragment → List Reference
  | [] => []
  | f :: fs => f.references ++ Body.references fs

end

namespace Fragment

@[simp] theorem references_text (text : String) : (Fragment.text text).references = [] := rfl

@[simp] theorem references_param (name : String) :
    (Fragment.param name).references = [.value name] := rfl

@[simp] theorem references_when (test : String) (body : Body) :
    (Fragment.when test body).references = Body.references body := rfl

@[simp] theorem references_trim (rule : TrimRule) (body : Body) :
    (Fragment.trim rule body).references = Body.references body := rfl

@[simp] theorem references_forEach (rule : LoopRule) (body : Body) :
    (Fragment.forEach rule body).references = [.collection rule.collection] := rfl

end Fragment

/-- What a condition refers to by a name: a collection if it needs an iterable, else a value. -/
def Condition.reference (c : Condition) (name : String) : Reference :=
  if c.comparator.expectsIterable then .collection name else .value name

/-- What a condition refers to with its operands. -/
def Comparison.references (c : Comparison) : List Reference :=
  c.operands.map c.condition.reference

namespace Body

@[simp] theorem references_nil : references [] = [] := rfl

@[simp] theorem references_cons (f : Fragment) (fs : Body) :
    references (f :: fs) = f.references ++ references fs := rfl

/-- Joining text with the text before it changes no reference. -/
@[simp] theorem references_push (body : Body) (f : Fragment) :
    references (body.push f) = references body ++ f.references :=
  read_push rfl (fun _ _ => rfl) (fun _ _ => rfl) body f

/-- A body that is put together refers to what its parts refer to. -/
@[simp] theorem references_append (body more : Body) :
    references (Body.append body more) = references body ++ references more :=
  read_append rfl (fun _ _ => rfl) (fun _ _ => rfl) body more

end Body

open Body

/-- A condition with as many operands as it needs refers to each of them once. -/
theorem references_body {c : Condition} {operands : List String} (column : String)
    (h : operands.length = c.arity) :
    references (c.body column operands) = Comparison.references ⟨c, operands⟩ := by
  obtain ⟨path, comparator⟩ := c
  match operands, comparator with
  | [], .isNull | [], .isNotNull => rfl
  | [a, b], .between => rfl
  | [a], .equal | [a], .not | [a], .greaterThan | [a], .greaterThanEqual | [a], .lessThan
  | [a], .lessThanEqual | [a], .like | [a], .notLike | [a], .containing | [a], .startingWith
  | [a], .endingWith | [a], .in | [a], .notIn => rfl

/-! ## The condition of a statement -/

namespace Clause

variable {column : PropertyPath → String}

/-- A test in front of a part changes no reference. -/
theorem references_guarded (selective : Bool) (operands : List String) (body : Body) :
    references (guarded selective operands body) = references body := by
  unfold guarded
  split
  · exact List.append_nil _
  · rfl

mutual

/-- A clause that is written out refers to the operands of its conditions in their order. -/
theorem references_fixed (c : Clause)
    (h : ∀ x ∈ c.comparisons, x.operands.length = x.condition.arity) (nested : Bool) :
    references (c.fixed column nested) = c.comparisons.flatMap Comparison.references := by
  match c with
  | leaf condition operands mark =>
    rw [fixed, comparisons, List.flatMap_singleton]
    exact references_body _ (h _ (List.mem_singleton_self _))
  | group op mark children =>
    have hchildren := references_fixedAll children h op
    rw [fixed, comparisons, ← hchildren]
    cases nested <;> simp

theorem references_fixedAll (cs : List Clause)
    (h : ∀ x ∈ comparisonsAll cs, x.operands.length = x.condition.arity) (op : Connective) :
    references (fixedAll column op cs) = (comparisonsAll cs).flatMap Comparison.references := by
  match cs with
  | [] => rfl
  | [c] =>
    obtain ⟨hc, -⟩ := List.forall_mem_append.mp h
    rw [fixedAll, references_fixed c hc, comparisonsAll, comparisonsAll, List.append_nil]
  | c :: next :: cs =>
    obtain ⟨hc, hcs⟩ := List.forall_mem_append.mp h
    show references (Body.append (Body.push _ (.text _)) (fixedAll column op (next :: cs))) =
      (c.comparisons ++ comparisonsAll (next :: cs)).flatMap Comparison.references
    rw [references_append, references_push, references_fixed c hc,
      references_fixedAll (next :: cs) hcs, List.flatMap_append, Fragment.references_text,
      List.append_nil]

end

mutual

/-- A clause with parts that may drop out refers to the operands of its conditions in their
order. -/
theorem references_conditional (c : Clause)
    (h : ∀ x ∈ c.comparisons, x.operands.length = x.condition.arity) (lead : Option Connective) :
    references (c.conditional column lead) = c.comparisons.flatMap Comparison.references := by
  match c with
  | leaf condition operands mark =>
    have hbody := references_body (column condition.path) (h _ (List.mem_singleton_self _))
    rw [comparisons, List.flatMap_singleton, ← hbody]
    show references (guarded mark operands _) = _
    rw [references_guarded]
    cases lead with
    | none => rfl
    | some op => simp
  | group op mark children =>
    rw [conditional, references_guarded, comparisons,
      ← references_conditionalAll children h op none]
    exact List.append_nil _

theorem references_conditionalAll (cs : List Clause)
    (h : ∀ x ∈ comparisonsAll cs, x.operands.length = x.condition.arity) (op : Connective)
    (lead : Option Connective) :
    references (conditionalAll column op lead cs) =
      (comparisonsAll cs).flatMap Comparison.references := by
  match cs with
  | [] => rfl
  | c :: cs =>
    obtain ⟨hc, hcs⟩ := List.forall_mem_append.mp h
    rw [conditionalAll, references_append, references_conditional c hc,
      references_conditionalAll cs hcs, comparisonsAll, List.flatMap_append]

end

/-- A clause on its own refers to the operands of its conditions in their order. -/
theorem references_conditionalTop (c : Clause)
    (h : ∀ x ∈ c.comparisons, x.operands.length = x.condition.arity) :
    references (c.conditionalTop column) = c.comparisons.flatMap Comparison.references := by
  cases c with
  | leaf condition operands mark => exact references_conditional _ h none
  | group op mark children =>
    rw [conditionalTop, references_guarded, references_conditionalAll children h, comparisons]

end Clause

/-- Where the lists of operands are as long as the conditions need them, every comparison has as
many operands as it needs. -/
theorem length_eq_arity_of_mem {cs : List Condition} {operands : List (List String)}
    (h : operands.map List.length = cs.map Condition.arity) {x : Comparison}
    (hx : x ∈ List.zipWith Comparison.mk cs operands) : x.operands.length = x.condition.arity := by
  obtain ⟨i, hi, rfl⟩ := List.mem_iff_getElem.mp hx
  rw [List.length_zipWith] at hi
  have hget := List.getElem_of_eq h (i := i) (by rw [List.length_map]; omega)
  rw [List.getElem_map, List.getElem_map] at hget
  rw [List.getElem_zipWith]
  exact hget

/-- With one list of operands for each condition, as long as the condition needs it, the condition
of a statement refers to these operands in their order. -/
theorem references_whereBody {p : Predicate} {operands : List (List String)}
    (column : PropertyPath → String)
    (h : operands.map List.length = p.conditions.map Condition.arity) :
    references (whereBody column p operands) =
      (List.zipWith Comparison.mk p.conditions operands).flatMap Comparison.references := by
  have hlength : operands.length = p.conditions.length := by
    simpa using congrArg List.length h
  have hcomparisons := comparisons_assigned hlength
  have hfit : ∀ x ∈ (p.assigned operands).comparisons, x.operands.length = x.condition.arity := by
    intro x hx
    rw [hcomparisons] at hx
    exact length_eq_arity_of_mem h hx
  rw [← hcomparisons]
  by_cases hselective : p.hasSelective = true
  · rw [whereBody, if_pos hselective, references_cons, references_cons, references_nil,
      List.append_nil, Fragment.references_text, List.nil_append, Fragment.references_trim]
    exact Clause.references_conditionalTop _ hfit
  · rw [whereBody, if_neg hselective, references_append, references_cons, references_nil,
      List.append_nil, Fragment.references_text, List.nil_append]
    exact Clause.references_fixed _ hfit false

/-! ## No operand is made up -/

/-- The condition on a column, if the operands that it is written with are there. -/
def Condition.body? (c : Condition) (column : String) (operands : List String) : Option Body :=
  let operand (i : Nat) : Option Fragment := operands[i]?.map .param
  let binary (op : String) : Option Body :=
    (operand 0).map fun a => [.text (column ++ " " ++ op ++ " "), a]
  match c.comparator with
  | .equal => binary "="
  | .not => binary "!="
  | .greaterThan => binary ">"
  | .greaterThanEqual => binary ">="
  | .lessThan => binary "<"
  | .lessThanEqual => binary "<="
  | .like => binary "LIKE"
  | .notLike => binary "NOT LIKE"
  | .containing =>
    (operand 0).map fun a => [.text (column ++ " LIKE CONCAT('%', "), a, .text ", '%')"]
  | .startingWith => (operand 0).map fun a => [.text (column ++ " LIKE CONCAT("), a, .text ", '%')"]
  | .endingWith => (operand 0).map fun a => [.text (column ++ " LIKE CONCAT('%', "), a, .text ")"]
  | .in => operands.head?.map fun a => [.text (column ++ " IN "), membership a]
  | .notIn => operands.head?.map fun a => [.text (column ++ " NOT IN "), membership a]
  | .isNull => some [.text (column ++ " IS NULL")]
  | .isNotNull => some [.text (column ++ " IS NOT NULL")]
  | .between =>
    match operand 0, operand 1 with
    | some a, some b => some [.text (column ++ " BETWEEN "), a, .text " AND ", b]
    | _, _ => none

/-- A condition with as many operands as it needs is written without the empty name. -/
theorem body?_of_arity {c : Condition} {operands : List String} (column : String)
    (h : operands.length = c.arity) :
    c.body? column operands = some (c.body column operands) := by
  obtain ⟨path, comparator⟩ := c
  match operands, comparator with
  | [], .isNull | [], .isNotNull => rfl
  | [a, b], .between => rfl
  | [a], .equal | [a], .not | [a], .greaterThan | [a], .greaterThanEqual | [a], .lessThan
  | [a], .lessThanEqual | [a], .like | [a], .notLike | [a], .containing | [a], .startingWith
  | [a], .endingWith | [a], .in | [a], .notIn => rfl

namespace Group

mutual

/-- The group with operands handed to its conditions, and the operands that are left, if there
are operands for every condition. -/
def assign? (operands : List (List String)) : Group → Option (Clause × List (List String))
  | leaf condition mark =>
    match operands with
    | [] => none
    | own :: rest => some (.leaf condition own mark, rest)
  | group op mark children =>
    (assignAll? operands children).map fun (clauses, rest) => (.group op mark clauses, rest)

/-- `assign?` on groups one after another. -/
def assignAll? (operands : List (List String)) :
    List Group → Option (List Clause × List (List String))
  | [] => some ([], operands)
  | g :: gs => do
    let (clause, rest) ← g.assign? operands
    let (clauses, last) ← assignAll? rest gs
    return (clause :: clauses, last)

end

mutual

/-- Where there is a list of operands for every condition, no condition goes without. -/
theorem assign?_eq_some (g : Group) (own rest : List (List String))
    (h : own.length = g.conditions.length) :
    g.assign? (own ++ rest) = some ((g.withOperands (own ++ rest)).1, rest) := by
  match g with
  | leaf condition mark =>
    obtain ⟨operands, rfl⟩ := List.length_eq_one_iff.mp h
    rfl
  | group op mark children =>
    rw [assign?, assignAll?_eq_some children own rest h]
    rfl

theorem assignAll?_eq_some (gs : List Group) (own rest : List (List String))
    (h : own.length = (conditionsOfAll gs).length) :
    assignAll? (own ++ rest) gs = some ((withOperandsAll (own ++ rest) gs).1, rest) := by
  match gs with
  | [] =>
    obtain rfl := List.length_eq_zero_iff.mp h
    rfl
  | g :: gs =>
    rw [conditionsOfAll, List.length_append] at h
    -- the lists for the first group, and those for the others
    obtain ⟨first, others, rfl, hfirst⟩ : ∃ first others, own = first ++ others ∧
        first.length = g.conditions.length :=
      ⟨own.take g.conditions.length, own.drop g.conditions.length,
        (List.take_append_drop _ _).symm, by rw [List.length_take]; omega⟩
    have hothers : others.length = (conditionsOfAll gs).length := by
      rw [List.length_append] at h
      omega
    have hg := assign?_eq_some g first (others ++ rest) hfirst
    have hgs := assignAll?_eq_some gs others rest hothers
    have hrest := (comparisons_withOperands g first (others ++ rest) hfirst).2
    rw [List.append_assoc, assignAll?, hg]
    simp only [Option.bind_eq_bind, Option.bind_some, hgs]
    show some (_ :: _, rest) = some (_ :: (withOperandsAll (g.withOperands _).2 gs).1, rest)
    rw [hrest]

end

end Group

/-- A list of operands for every condition is all that handing out operands takes. -/
theorem assign?_groups {p : Predicate} {operands : List (List String)}
    (h : operands.length = p.conditions.length) :
    p.groups.assign? operands = some (p.assigned operands, []) := by
  rw [← Predicate.conditions_groups] at h
  have := Group.assign?_eq_some p.groups operands [] h
  rwa [List.append_nil] at this

end DerivedQuery
