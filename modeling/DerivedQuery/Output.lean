import DerivedQuery.Json.Printer
import DerivedQuery.Record.Tree
import DerivedQuery.Unicode.Casing
import DerivedQuery.Yaml.Printer

/-!
# Output

A document is written as JSON or YAML, from which it can be loaded again, or as mapper XML.

Mirrors `OutputFormat`, `to_json`, `to_json_pretty`, `to_yaml`, `to_mapper_xml` and `render`.
-/

namespace DerivedQuery

/-- The forms a document can be written in. -/
inductive OutputFormat
  | json
  | yaml
  | xml
deriving DecidableEq, Repr

/-- The message for a format that does not exist, by its name in lower case. -/
def unknownFormatMessage (name : String) : String :=
  s!"unknown output format `{name}` (expected json, yaml or xml)"

/-- The format of a name in any case, or the message that there is none. -/
def OutputFormat.ofName (name : String) : Except String OutputFormat :=
  let lower := Unicode.lowerText name
  if lower = "json" then .ok .json
  else if lower = "yaml" || lower = "yml" then .ok .yaml
  else if lower = "xml" then .ok .xml
  else .error (unknownFormatMessage lower)

/-- A statement on lines of its own, a derived one behind a comment that says so. -/
def Statement.mapperLines (s : Statement) : String :=
  "\n" ++ (if s.generated then "    <!-- auto mapper generate -->\n" else "") ++ "    " ++
    s.render ++ "\n"

namespace Document

/-- The document as mapper XML. -/
def toMapperXml (d : Document) : String :=
  "<mapper" ++ Xml.attr "namespace" d.namespaceName ++ ">\n" ++
    String.join (d.statements.map Statement.mapperLines) ++ "</mapper>\n"

/-- The document as a JSON value. -/
def toJson (d : Document) : Json := d.toTree.toJson

/-- The document as a YAML text. -/
def toYaml (d : Document) : String := Yaml.print d.toTree

/-- The document in a format; only JSON is affected by the wish for a form over several lines. -/
def render (d : Document) (format : OutputFormat) (pretty : Bool) : String :=
  match format with
  | .json => d.toJson.print pretty
  | .yaml => d.toYaml
  | .xml => d.toMapperXml

end Document

end DerivedQuery
