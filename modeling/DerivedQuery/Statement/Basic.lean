import DerivedQuery.Statement.Fragment
import DerivedQuery.Xml.Escape

/-!
# Statements

A statement is bound to the method whose name is its id. `Statement.render` writes it as an
element with its fragments as nested elements.

Mirrors `StatementKind`, `MappedStatement` with `sql` and `render`, and the `render` of
`SqlFragment`.
-/

namespace DerivedQuery

open DerivedQuery.Xml

mutual

/-- The fragment in its written form. -/
def Fragment.render : Fragment → String
  | .text text => escapeText text
  | .param name => r"#{" ++ name ++ r"}"
  | .when test body => "<if" ++ attr "test" test ++ ">" ++ renderBody body ++ "</if>"
  | .trim rule body =>
    "<trim" ++ attrIfAny "prefix" rule.opening ++ attrIfAny "suffix" rule.closing ++
      attrIfAny "prefixOverrides" ("|".intercalate rule.openingOverrides) ++
      attrIfAny "suffixOverrides" ("|".intercalate rule.closingOverrides) ++
      ">" ++ renderBody body ++ "</trim>"
  | .forEach rule body =>
    "<foreach" ++ attrIfAny "collection" rule.collection ++
      attrIfAny "item" rule.item ++ attrIfAny "open" rule.opening ++
      attrIfAny "separator" rule.separator ++ attrIfAny "close" rule.closing ++
      ">" ++ renderBody body ++ "</foreach>"

/-- The fragments in their written form, one after another. -/
def renderBody : List Fragment → String
  | [] => ""
  | f :: rest => f.render ++ renderBody rest

end

/-- What a statement does. -/
inductive StatementKind
  | insert
  | delete
  | update
  | select
deriving DecidableEq, Repr

/-- The element a statement is written as, which is also the word for its kind in a document. -/
def StatementKind.tag : StatementKind → String
  | .insert => "insert"
  | .delete => "delete"
  | .update => "update"
  | .select => "select"

/-- A statement of a document. -/
structure Statement where
  /-- The name of the method the statement is bound to. -/
  id : String
  kind : StatementKind
  parameterType : Option String := none
  resultType : Option String := none
  /-- The bean property that receives the key the database generates. -/
  keyProperty : Option String := none
  /-- Whether the statement was derived and not written by hand. -/
  generated : Bool := false
  body : Body := []
deriving DecidableEq, Repr

namespace Statement

/-- The body in its written form. -/
def sql (s : Statement) : String := renderBody s.body

/-- The statement in its written form. -/
def render (s : Statement) : String :=
  let tag := s.kind.tag
  let key :=
    match s.keyProperty with
    | none => ""
    | some key => attr "useGeneratedKeys" "true" ++ attr "keyProperty" key
  "<" ++ tag ++ attr "id" s.id ++ optionalAttr "parameterType" s.parameterType ++
    optionalAttr "resultType" s.resultType ++ key ++ ">" ++ s.sql ++ "</" ++ tag ++ ">"

end Statement

end DerivedQuery
