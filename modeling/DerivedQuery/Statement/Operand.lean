import DerivedQuery.Method.Bound
import DerivedQuery.Query.Basic

/-!
# Operands

Which values the conditions of a query compare with. The parameters that are not beans are handed
out in their order, each condition taking as many as its comparator needs; a method without such
parameters takes the operands from the properties of a bean, found by the conditions' own paths.

Mirrors `bind_operands`, `property_ref` and `TranslateError`.
-/

namespace DerivedQuery

open DerivedQuery.Types

/-- Why no statement can be built for a method. -/
inductive TranslateError
  | missingOperands (method : String) (expected found : Nat)
  | droppedParameter (method param : String)
  | notIterable (method property param : String)
  | missingPayload (method : String)
  | missingPageParams (method : String)
  | invalidReturn (method expected : String)
  | unsupported (method reason : String)
deriving DecidableEq, Repr

/-- The message of a translation error. -/
def TranslateError.message : TranslateError → String
  | .missingOperands method expected found =>
    s!"`{method}` binds {expected} operand(s) but only {found} parameter(s) are available"
  | .droppedParameter method param =>
    s!"`{method}` lost parameter `{param}` while binding, so its operands cannot be matched"
  | .notIterable method property param =>
    s!"`{method}` compares `{property}` against `{param}`, which is not iterable"
  | .missingPayload method => s!"`{method}` has no bean parameter to take its values from"
  | .missingPageParams method => s!"`{method}` needs `offset` and `limit` parameters"
  | .invalidReturn method expected => s!"`{method}` must return {expected}"
  | .unsupported method reason => s!"`{method}`: {reason}"

/-- The parameter that says how many rows of a page to skip. -/
def offsetName : String := "offset"

/-- The parameter that bounds the rows of a page. -/
def limitName : String := "limit"

namespace BoundMethod

/-- How a property of a bean parameter is referred to: by its own name if that is the only
parameter, else behind the parameter's name. -/
def propertyRef (m : BoundMethod) (bean : Param) (property : String) : String :=
  if m.params.length = 1 then property else bean.name ++ "." ++ property

/-- The parameters that conditions take operands from in order: those that are not beans and, for
a page, do not bound it. -/
def positional (m : BoundMethod) (operation : Operation) : List Param :=
  m.params.filter fun p =>
    !p.isBean && !(operation == .page && (p.name == offsetName || p.name == limitName))

/-- The first parameter that is a bean by itself. -/
def plainBean? (m : BoundMethod) : Option Param :=
  m.params.find? fun p => p.isBean && !p.isIterable

/-- The names of the parameters a condition takes from the front, unless it needs an iterable and
gets another one. -/
def takeOperands (m : BoundMethod) (c : Condition) (available : List Param) :
    Except TranslateError (List String) :=
  let bound := available.take c.arity
  match (if c.comparator.expectsIterable then bound.find? (!·.isIterable) else none) with
  | some p => .error (.notIterable m.name c.path.dotted p.name)
  | none => .ok (bound.map (·.name))

/-- The operands of each condition when the parameters are handed out in order. -/
def operandsInOrder (m : BoundMethod) : List Condition → List Param →
    Except TranslateError (List (List String))
  | [], _ => .ok []
  | c :: rest, available => do
    let names ← m.takeOperands c available
    let others ← m.operandsInOrder rest (available.drop c.arity)
    return names :: others

/-- The operands of each condition when they are properties of a bean. -/
def operandsOfBean (m : BoundMethod) (expected : Nat) (bean : Param) : List Condition →
    Except TranslateError (List (List String))
  | [] => .ok []
  | c :: rest => do
    let names ← match c.arity with
      | 0 => pure []
      | 1 => pure [m.propertyRef bean c.path.dotted]
      | _ => throw (TranslateError.missingOperands m.name expected 0)
    let others ← m.operandsOfBean expected bean rest
    return names :: others

/-- The operands of each condition of a query, in the conditions' order. -/
def operands (m : BoundMethod) (q : Query) : Except TranslateError (List (List String)) :=
  let expected := q.operandCount
  if expected = 0 then .ok (q.conditions.map fun _ => [])
  else
    match m.dropped with
    | name :: _ => .error (.droppedParameter m.name name)
    | [] =>
      let available := m.positional q.operation
      if expected ≤ available.length then m.operandsInOrder q.conditions available
      else
        match m.plainBean?, available with
        | some bean, [] => m.operandsOfBean expected bean q.conditions
        | _, _ => .error (.missingOperands m.name expected available.length)

end BoundMethod

end DerivedQuery
