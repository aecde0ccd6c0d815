import DerivedQuery.Query.Predicate

/-!
# Groups of conditions

A predicate seen as groups: a chain of one connective, however it is nested, becomes one group with
all the chain's members, and a selective node becomes a mark on the leaf or group under it. A
selective node ends a chain: what it marks is a member of its own.

Mirrors `PredicateGroup`, `build_group` and `flatten`.
-/

namespace DerivedQuery

/-- A condition or a group of them. -/
inductive Group
  | leaf (condition : Condition) (selective : Bool)
  | group (op : Connective) (selective : Bool) (children : List Group)
deriving Repr

namespace Predicate

mutual

/-- The predicate as one group; `mark` tells whether a selective node is directly above. -/
def toGroup (mark : Bool) : Predicate → Group
  | condition c => .leaf c mark
  | selective inner => inner.toGroup true
  | binary op left right => .group op mark (left.members op ++ right.members op)

/-- The members the predicate contributes to a chain of `op`. -/
def members (op : Connective) : Predicate → List Group
  | condition c => [.leaf c false]
  | selective inner => [inner.toGroup true]
  | binary op' left right =>
    if op' = op then left.members op ++ right.members op
    else [.group op' false (left.members op' ++ right.members op')]

end

/-- The groups of a predicate. -/
def groups (p : Predicate) : Group := p.toGroup false

end Predicate

namespace Group

/-- Whether the leaf or group is marked as selective. -/
def isSelective : Group → Bool
  | leaf _ mark => mark
  | group _ mark _ => mark

mutual

/-- The conditions of the leaves from left to right. -/
def conditions : Group → List Condition
  | leaf c _ => [c]
  | group _ _ children => conditionsOfAll children

/-- The conditions of the leaves of several groups. -/
def conditionsOfAll : List Group → List Condition
  | [] => []
  | g :: gs => g.conditions ++ conditionsOfAll gs

end

end Group

end DerivedQuery
