import DerivedQuery.Manifest.Basic

/-!
# Serialized declarations and manifests

The JSON form of declarations and manifests with all of their fields, types in their written form
and null for what is not set.

Mirrors the derived writers of `Manifest`, `MapperConfig`, `TypeDecl` and its members.
-/

namespace DerivedQuery

open DerivedQuery.Types

namespace Types

/-- The type in its written form. -/
def TypeRef.toJson (t : TypeRef) : Json := .text t.print

/-- The field with all of its parts. -/
def FieldDecl.toJson (f : FieldDecl) : Json :=
  .ofMembers [
    ("name", .text f.name), ("type", f.type.toJson), ("column", .optionalText f.column),
    ("generated_key", .bool f.generatedKey)]

/-- The parameter with all of its parts. -/
def ParamDecl.toJson (p : ParamDecl) : Json :=
  .ofMembers [
    ("name", .text p.name), ("type", p.type.toJson), ("alias", .optionalText p.alternate),
    ("column", .optionalText p.column)]

/-- The method with all of its parts. -/
def MethodDecl.toJson (m : MethodDecl) : Json :=
  .ofMembers [
    ("name", .text m.name), ("params", .array (m.params.map ParamDecl.toJson)),
    ("returns", m.returns.toJson), ("static", .bool m.isStatic), ("default", .bool m.isDefault),
    ("native", .bool m.isNative), ("statement", .optionalText m.statement)]

/-- The declaration with all of its parts. -/
def TypeDecl.toJson (d : TypeDecl) : Json :=
  .ofMembers [
    ("name", .text d.name), ("kind", .text d.kind.name), ("type_params", .texts d.typeParams),
    ("superclass", (d.superclass.map TypeRef.toJson).getD .null),
    ("interfaces", .array (d.interfaces.map TypeRef.toJson)),
    ("fields", .array (d.fields.map FieldDecl.toJson)),
    ("methods", .array (d.methods.map MethodDecl.toJson))]

end Types

/-- The settings with all of their parts. -/
def Settings.toJson (s : Settings) : Json :=
  .ofMembers [
    ("namespace", .optionalText s.namespaceName), ("table", .optionalText s.table),
    ("naming", .text s.naming.name),
    ("opaque_prefixes", (s.opaquePrefixes.map Json.texts).getD .null),
    ("iterable_type", .optionalText s.iterableType), ("platform_types", .bool s.platformTypes)]

/-- The manifest with all of its parts. -/
def Manifest.toJson (m : Manifest) : Json :=
  .ofMembers [
    ("mapper", .text m.mapper), ("config", m.settings.toJson),
    ("types", .array (m.types.map TypeDecl.toJson))]

end DerivedQuery
