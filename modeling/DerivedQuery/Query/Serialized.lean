import DerivedQuery.Json.Basic
import DerivedQuery.MethodName.Token
import DerivedQuery.Query.Basic

/-!
# Serialized queries and tokens

The JSON form in which a query and the tokens of a method name are shown.

Mirrors the derived writers of `Query`, `Predicate`, `OrderBy` and `Token`.
-/

namespace DerivedQuery

/-- The path by its segments. -/
def PropertyPath.toJson (path : PropertyPath) : Json := .texts path.segments

/-- The condition by its path and comparator. -/
def Condition.toJson (c : Condition) : Json :=
  .ofMembers [("path", c.path.toJson), ("comparator", .text c.comparator.name)]

/-- The tree, each node tagged by its kind. -/
def Predicate.toJson : Predicate → Json
  | .condition c => .ofMembers [("Condition", c.toJson)]
  | .binary op left right =>
    .ofMembers [("Binary", .ofMembers
      [("op", .text op.name), ("left", left.toJson), ("right", right.toJson)])]
  | .selective inner => .ofMembers [("Selective", inner.toJson)]

/-- The sort key by its path and direction. -/
def SortKey.toJson (key : SortKey) : Json :=
  .ofMembers [("path", key.path.toJson), ("direction", .text key.direction.name)]

/-- The query with all of its parts; a part that is missing is null. -/
def Query.toJson (q : Query) : Json :=
  .ofMembers [
    ("operation", .text q.operation.name),
    ("all", .bool q.all),
    ("selective", .bool q.selective),
    ("predicate", (q.predicate.map Predicate.toJson).getD .null),
    ("order_by", (q.orderBy.map fun keys => Json.array (keys.map SortKey.toJson)).getD .null)]

namespace MethodName

/-- The kind of a token: a name, or a name with the operation or comparator it stands for. -/
def TokenKind.toJson : TokenKind → Json
  | .operation op => .ofMembers [("Operation", .text op.name)]
  | .comparator c => .ofMembers [("Comparator", .text c.name)]
  | .by => .text "By"
  | .and => .text "And"
  | .or => .text "Or"
  | .orderBy => .text "OrderBy"
  | .asc => .text "Asc"
  | .desc => .text "Desc"
  | .all => .text "All"
  | .selective => .text "Selective"
  | .property => .text "Property"
  | .pathSeparator => .text "PathSeparator"
  | .eof => .text "Eof"

/-- The token by its kind, text and position. -/
def Token.toJson (t : Token) : Json :=
  .ofMembers [("kind", t.kind.toJson), ("text", .text t.text), ("position", .nat t.position)]

end MethodName

end DerivedQuery
