import DerivedQuery.Json.Basic
import DerivedQuery.Statement.Document

/-!
# Documents as trees

The form of a document that all notations share: records with named fields, lists, texts and flags.
Fields that are unset are left out where a document allows it.

Mirrors the derived writers of `StatementDocument`, `MappedStatement` and `SqlFragment` with the
fields that are left out when they are empty.
-/

namespace DerivedQuery.Record

/-- A value to be written. -/
inductive Tree
  | text (value : String)
  | flag (value : Bool)
  | list (items : List Tree)
  | record (fields : List (String × Tree))
deriving Repr, Inhabited

namespace Tree

/-- The list of texts. -/
def texts (values : List String) : Tree := .list (values.map .text)

/-- A field with a text, unless that is empty. -/
def textField (name value : String) : List (String × Tree) :=
  if value.isEmpty then [] else [(name, .text value)]

/-- A field with texts, unless there are none. -/
def textsField (name : String) (values : List String) : List (String × Tree) :=
  if values.isEmpty then [] else [(name, texts values)]

/-- A field with a text, if there is one. -/
def optionalField (name : String) : Option String → List (String × Tree)
  | none => []
  | some value => [(name, .text value)]

mutual

/-- The tree as a JSON value. -/
def toJson : Tree → Json
  | .text value => .text value
  | .flag value => .bool value
  | .list items => .array (itemsToJson items)
  | .record fields => .object (fieldsToJson fields)

/-- The items as JSON values. -/
def itemsToJson : List Tree → List Json
  | [] => []
  | t :: rest => t.toJson :: itemsToJson rest

/-- The fields as members of a JSON object. -/
def fieldsToJson : List (String × Tree) → List (String × Json)
  | [] => []
  | (name, t) :: rest => (Json.encode name, t.toJson) :: fieldsToJson rest

end

end Tree

end Record

open Record

mutual

/-- The fragment as a tree, its kind first. -/
def Fragment.toTree : Fragment → Tree
  | .text text => .record [("type", .text "text"), ("text", .text text)]
  | .param name => .record [("type", .text "param"), ("name", .text name)]
  | .when test body =>
    .record [("type", .text "if"), ("test", .text test), ("body", .list (bodyToTrees body))]
  | .trim rule body =>
    .record ([("type", .text "trim")] ++ Tree.textField "prefix" rule.opening ++
      Tree.textField "suffix" rule.closing ++
      Tree.textsField "prefix_overrides" rule.openingOverrides ++
      Tree.textsField "suffix_overrides" rule.closingOverrides ++
      [("body", .list (bodyToTrees body))])
  | .forEach rule body =>
    .record [("type", .text "for_each"), ("collection", .text rule.collection),
      ("item", .text rule.item), ("open", .text rule.opening),
      ("separator", .text rule.separator), ("close", .text rule.closing),
      ("body", .list (bodyToTrees body))]

/-- The fragments of a body as trees. -/
def bodyToTrees : List Fragment → List Tree
  | [] => []
  | f :: rest => f.toTree :: bodyToTrees rest

end

/-- The statement as a tree. -/
def Statement.toTree (s : Statement) : Tree :=
  .record ([("id", .text s.id), ("kind", .text s.kind.tag)] ++
    Tree.optionalField "parameter_type" s.parameterType ++
    Tree.optionalField "result_type" s.resultType ++
    Tree.optionalField "key_property" s.keyProperty ++
    [("generated", .flag s.generated), ("body", .list (bodyToTrees s.body))])

/-- The document as a tree. -/
def Document.toTree (d : Document) : Tree :=
  .record [
    ("namespace", .text d.namespaceName),
    ("statements", .list (d.statements.map Statement.toTree))]

end DerivedQuery
