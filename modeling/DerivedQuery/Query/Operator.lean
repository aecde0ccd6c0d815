/-!
# The vocabulary of a query

Operations, comparators, connectives and sort directions, each with the words that stand for it.

Mirrors `OperationKind`, `Comparator`, `LogicOp` and `Direction`.
-/

namespace DerivedQuery

/-- What a method does with the rows its condition selects. -/
inductive Operation
  /-- Select the matching rows. -/
  | find
  /-- Select one matching row. -/
  | get
  /-- Count the matching rows. -/
  | count
  /-- Tell whether a row matches. -/
  | exists
  /-- Delete the matching rows. -/
  | delete
  /-- Insert a bean, or every bean of an iterable. -/
  | insert
  /-- Assign the properties of a bean to the matching rows. -/
  | update
  /-- Select one page of the matching rows. -/
  | page
deriving DecidableEq, Repr

namespace Operation

/-- The operations in the order in which messages list them. -/
def all : List Operation := [.find, .get, .count, .exists, .delete, .insert, .update, .page]

/-- The word a method name starts with. -/
def keyword : Operation → String
  | .find => "find"
  | .get => "get"
  | .count => "count"
  | .exists => "exists"
  | .delete => "delete"
  | .insert => "insert"
  | .update => "update"
  | .page => "page"

/-- The operation a word stands for. -/
def ofKeyword? (word : String) : Option Operation := all.find? (·.keyword == word)

/-- The operation's name in a serialized query. -/
def name : Operation → String
  | .find => "Find"
  | .get => "Get"
  | .count => "Count"
  | .exists => "Exists"
  | .delete => "Delete"
  | .insert => "Insert"
  | .update => "Update"
  | .page => "Page"

theorem ofKeyword?_keyword (op : Operation) : ofKeyword? op.keyword = some op := by
  cases op <;> decide

end Operation

/-- How a condition compares a property with its operands. -/
inductive Comparator
  | equal
  | not
  | greaterThan
  | greaterThanEqual
  | lessThan
  | lessThanEqual
  | like
  | notLike
  | in
  | notIn
  | isNull
  | isNotNull
  | between
  | containing
  | startingWith
  | endingWith
deriving DecidableEq, Repr

namespace Comparator

/-- All comparators. -/
def all : List Comparator :=
  [.equal, .not, .greaterThan, .greaterThanEqual, .lessThan, .lessThanEqual, .like, .notLike, .in,
   .notIn, .isNull, .isNotNull, .between, .containing, .startingWith, .endingWith]

/-- The number of operands a condition binds. -/
def arity : Comparator → Nat
  | .isNull | .isNotNull => 0
  | .between => 2
  | _ => 1

/-- Whether the operand has to be an iterable. -/
def expectsIterable : Comparator → Bool
  | .in | .notIn => true
  | _ => false

/-- The comparator's name in a serialized query. -/
def name : Comparator → String
  | .equal => "Equal"
  | .not => "Not"
  | .greaterThan => "GreaterThan"
  | .greaterThanEqual => "GreaterThanEqual"
  | .lessThan => "LessThan"
  | .lessThanEqual => "LessThanEqual"
  | .like => "Like"
  | .notLike => "NotLike"
  | .in => "In"
  | .notIn => "NotIn"
  | .isNull => "IsNull"
  | .isNotNull => "IsNotNull"
  | .between => "Between"
  | .containing => "Containing"
  | .startingWith => "StartingWith"
  | .endingWith => "EndingWith"

end Comparator

/-- The connective between two conditions. -/
inductive Connective
  | and
  | or
deriving DecidableEq, Repr

namespace Connective

/-- The connective in a statement. -/
def keyword : Connective → String
  | .and => "AND"
  | .or => "OR"

/-- The connective's name in a serialized query. -/
def name : Connective → String
  | .and => "And"
  | .or => "Or"

end Connective

/-- The direction of a sort key. -/
inductive Direction
  | ascending
  | descending
deriving DecidableEq, Repr

namespace Direction

/-- The direction in a statement. -/
def keyword : Direction → String
  | .ascending => "ASC"
  | .descending => "DESC"

/-- The direction's name in a serialized query. -/
def name : Direction → String
  | .ascending => "Asc"
  | .descending => "Desc"

end Direction

end DerivedQuery
