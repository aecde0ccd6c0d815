import DerivedQuery.Json.Reader
import DerivedQuery.Manifest.Basic
import DerivedQuery.Record.Json
import DerivedQuery.Record.Yaml
import DerivedQuery.Types.Signature

/-!
# Reading manifests

A manifest is a record of the mapper's name, the settings and the declarations of types, in any
notation. Types stand in it in their written form.

Mirrors the derived readers of `Manifest`, `MapperConfig`, `TypeDecl` and its members, and
`from_json_str` and `from_yaml_str`.
-/

namespace DerivedQuery.Record

open DerivedQuery.Naming DerivedQuery.Types

/-- The kinds of declarations by their words. -/
def declKinds : List (String × DeclKind) := [("class", .classType), ("interface", .interfaceType)]

namespace Source

variable {m : Type → Type} [Monad m] [MonadLiftT Option m] {α : Type}

/-- Reads a type in its written form. -/
def type (s : Source m α) (v : α) : m TypeRef := do
  match TypeRef.parse (← s.text? v) with
  | .ok t => return t
  | .error _ => fail

/-- Reads a parameter. -/
def param (s : Source m α) (v : α) : m ParamDecl := do
  match ← s.fields? ["name", "type", "alias", "column"] v with
  | [name, type, alternate, column] =>
    return {
      name := ← required s.text? name
      type := ← required s.type type
      alternate := ← s.optional s.text? alternate
      column := ← s.optional s.text? column }
  | _ => fail

/-- Reads a method. -/
def method (s : Source m α) (v : α) : m MethodDecl := do
  match ← s.fields? ["name", "params", "returns", "static", "default", "native", "statement"] v with
  | [name, params, returns, isStatic, isDefault, isNative, statement] =>
    return {
      name := ← required s.text? name
      params := ← orDefault [] (s.list s.param) params
      returns := ← orDefault .void s.type returns
      isStatic := ← orDefault false s.flag? isStatic
      isDefault := ← orDefault false s.flag? isDefault
      isNative := ← orDefault false s.flag? isNative
      statement := ← s.optional s.text? statement }
  | _ => fail

/-- Reads a field. -/
def field (s : Source m α) (v : α) : m FieldDecl := do
  match ← s.fields? ["name", "type", "column", "generated_key"] v with
  | [name, type, column, generatedKey] =>
    return {
      name := ← required s.text? name
      type := ← required s.type type
      column := ← s.optional s.text? column
      generatedKey := ← orDefault false s.flag? generatedKey }
  | _ => fail

/-- Reads a declaration. -/
def decl (s : Source m α) (v : α) : m TypeDecl := do
  match ← s.fields?
    ["name", "kind", "type_params", "superclass", "interfaces", "fields", "methods"] v with
  | [name, kind, typeParams, superclass, interfaces, fields, methods] =>
    return {
      name := ← required s.text? name
      kind := ← orDefault .classType (s.choice declKinds) kind
      typeParams := ← orDefault [] (s.list s.text?) typeParams
      superclass := ← s.optional s.type superclass
      interfaces := ← orDefault [] (s.list s.type) interfaces
      fields := ← orDefault [] (s.list s.field) fields
      methods := ← orDefault [] (s.list s.method) methods }
  | _ => fail

/-- Reads the settings. -/
def settings (s : Source m α) (v : α) : m Settings := do
  match ← s.fields?
    ["namespace", "table", "naming", "opaque_prefixes", "iterable_type", "platform_types"] v with
  | [namespaceName, table, naming, opaquePrefixes, iterableType, platformTypes] =>
    return {
      namespaceName := ← s.optional s.text? namespaceName
      table := ← s.optional s.text? table
      naming := ← orDefault .lowerUnderScore (s.choice Style.names) naming
      opaquePrefixes := ← s.optional (s.list s.text?) opaquePrefixes
      iterableType := ← s.optional s.text? iterableType
      platformTypes := ← orDefault true s.flag? platformTypes }
  | _ => fail

/-- Reads a manifest. -/
def manifest (s : Source m α) (v : α) : m Manifest := do
  match ← s.fields? ["mapper", "config", "types"] v with
  | [mapper, settings, types] =>
    return {
      mapper := ← required s.text? mapper
      settings := ← orDefault {} s.settings settings
      types := ← orDefault [] (s.list s.decl) types }
  | _ => fail

end Source

/-- The declaration a JSON value holds. -/
def declOfJson? (v : Json) : Option TypeDecl := jsonSource.decl ⟨jsonLevels, v⟩

/-- The method a JSON value holds. -/
def methodOfJson? (v : Json) : Option MethodDecl := jsonSource.method ⟨jsonLevels, v⟩

end DerivedQuery.Record

namespace DerivedQuery.Manifest

open DerivedQuery.Record

/-- The manifest a JSON text holds. -/
def ofJson? (text : String) : Option Manifest :=
  (Json.read? text).bind fun v => jsonSource.manifest ⟨jsonLevels, v⟩

/-- The manifest a YAML text holds. -/
def ofYaml? (text : String) : Option Manifest :=
  YamlPlace.readBy? yamlSource.manifest text

end DerivedQuery.Manifest
