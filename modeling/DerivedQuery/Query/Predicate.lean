import DerivedQuery.Query.Operator

/-!
# Predicates

The condition of a query is a binary tree of property comparisons. A `selective` node marks the
part under it as one that only counts when all of its operands are present.

Mirrors `PropertyPath`, `Condition` and `Predicate`.
-/

namespace DerivedQuery

/-- A property, or a property of a property and so on, by the names on the way to it. -/
structure PropertyPath where
  segments : List String
deriving DecidableEq, Repr

namespace PropertyPath

/-- The property the path starts at. -/
def first? (path : PropertyPath) : Option String := path.segments.head?

/-- Whether the path leads beyond one property. -/
def isNested (path : PropertyPath) : Bool := path.segments.length > 1

/-- The segments with a separator between them. -/
def join (path : PropertyPath) (separator : String) : String :=
  separator.intercalate path.segments

/-- The path with dots between its segments. -/
def dotted (path : PropertyPath) : String := path.join "."

end PropertyPath

/-- One comparison of a property with operands. -/
structure Condition where
  path : PropertyPath
  comparator : Comparator
deriving DecidableEq, Repr

/-- The number of operands a condition binds. -/
def Condition.arity (c : Condition) : Nat := c.comparator.arity

/-- The number of operands several conditions together bind. -/
def Condition.arityOfAll : List Condition → Nat
  | [] => 0
  | c :: cs => c.arity + arityOfAll cs

/-- A tree of conditions. -/
inductive Predicate
  | condition (c : Condition)
  | binary (op : Connective) (left right : Predicate)
  | selective (inner : Predicate)
deriving DecidableEq, Repr

namespace Predicate

/-- Whether a node of the tree is selective. -/
def hasSelective : Predicate → Bool
  | condition _ => false
  | binary _ left right => left.hasSelective || right.hasSelective
  | selective _ => true

/-- The conditions from left to right. -/
def conditions : Predicate → List Condition
  | condition c => [c]
  | binary _ left right => left.conditions ++ right.conditions
  | selective inner => inner.conditions

/-- The number of operands all conditions together bind. -/
def operandCount (p : Predicate) : Nat := Condition.arityOfAll p.conditions

/-- The predicates joined by `op` from the left: `a`, `b`, `c` become `(a op b) op c`. -/
def chain (op : Connective) (first : Predicate) (rest : List Predicate) : Predicate :=
  rest.foldl (binary op) first

/-- The predicate, marked as selective if `mark` holds. -/
def markedIf (mark : Bool) (p : Predicate) : Predicate := if mark then selective p else p

end Predicate

end DerivedQuery
