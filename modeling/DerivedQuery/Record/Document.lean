import DerivedQuery.Record.Json
import DerivedQuery.Record.Yaml
import DerivedQuery.Statement.Document

/-!
# Reading documents

A document is a record with a namespace and statements, in any notation. Unset fields may be
missing. With a text layer it is written to a text and loaded from one.

Mirrors the derived readers of `StatementDocument` and `MappedStatement` with the defaults of their
fields, and `from_json_str` and `from_yaml_str`; the texts with which a notation refuses are left
out.
-/

namespace DerivedQuery.Record

/-- The kinds of statements by their words. -/
def statementKinds : List (String × StatementKind) :=
  [("insert", .insert), ("delete", .delete), ("update", .update), ("select", .select)]

namespace Source

variable {m : Type → Type} [Monad m] [MonadLiftT Option m] {α : Type}

/-- Reads a statement. -/
def statement (s : Source m α) (v : α) : m Statement := do
  match ← s.fields?
    ["id", "kind", "parameter_type", "result_type", "key_property", "generated", "body"] v with
  | [id, kind, parameterType, resultType, keyProperty, generated, body] =>
    return {
      id := ← required s.text? id
      kind := ← required (s.choice statementKinds) kind
      parameterType := ← s.optional s.text? parameterType
      resultType := ← s.optional s.text? resultType
      keyProperty := ← s.optional s.text? keyProperty
      generated := ← orDefault false s.flag? generated
      body := ← orDefault [] (s.list s.fragment) body }
  | _ => fail

/-- Reads a document. -/
def document (s : Source m α) (v : α) : m Document := do
  match ← s.fields? ["namespace", "statements"] v with
  | [namespaceName, statements] =>
    return {
      namespaceName := ← required s.text? namespaceName
      statements := ← orDefault [] (s.list s.statement) statements }
  | _ => fail

end Source

namespace TextLayer

/-- The text of a document, on one line or over several. -/
def write (l : TextLayer) (overLines : Bool) (d : Document) : String := l.print overLines d.toTree

/-- The document a text holds. -/
def load? (l : TextLayer) (text : String) : Option Document :=
  (l.read? text).bind l.source.document

end TextLayer

end DerivedQuery.Record

namespace DerivedQuery.Document

open DerivedQuery.Record

/-- The document a JSON text holds. -/
def ofJson? (text : String) : Option Document := jsonLayer.load? text

/-- The document a YAML text holds. -/
def ofYaml? (text : String) : Option Document :=
  YamlPlace.readBy? yamlSource.document text

end DerivedQuery.Document
