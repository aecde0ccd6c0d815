import DerivedQuery.Query.Predicate

/-!
# Queries

What a method name says: the operation, its modifiers, the condition and the order of the rows.

Mirrors `Query`, `OrderBy` and `OrderClause`.
-/

namespace DerivedQuery

/-- A sort key with its direction. -/
structure SortKey where
  path : PropertyPath
  direction : Direction
deriving DecidableEq, Repr

/-- The sort key in the form in which it is shown. -/
def SortKey.text (key : SortKey) : String := key.path.dotted ++ " " ++ key.direction.keyword

/-- A query derived from a method name. -/
structure Query where
  operation : Operation
  /-- Whether `All` follows the operation: the unfiltered or the batch form. -/
  all : Bool
  /-- Whether `Selective` follows the operation: only properties that are present are written. -/
  selective : Bool
  predicate : Option Predicate
  orderBy : Option (List SortKey)
deriving DecidableEq, Repr

namespace Query

/-- Whether a part of the condition is selective. -/
def hasSelective (q : Query) : Bool := q.predicate.any (·.hasSelective)

/-- The conditions from left to right. -/
def conditions (q : Query) : List Condition := (q.predicate.map (·.conditions)).getD []

/-- The number of operands the condition binds. -/
def operandCount (q : Query) : Nat := (q.predicate.map (·.operandCount)).getD 0

end Query

end DerivedQuery
