import DerivedQuery.Files.Failure
import DerivedQuery.Types.Resolver

/-!
# Manifests

A manifest names the mapper to derive statements for, declares the types its methods use, and may
settle the namespace, the table, the naming of columns and the classification of types.

Mirrors `Manifest` and `MapperConfig` with `namespace`, `table`, `type_table` and `resolver_config`,
and `ConfigError`.
-/

namespace DerivedQuery

open DerivedQuery.Naming DerivedQuery.Types

/-- The settings of a run; what is not set has a default. -/
structure Settings where
  /-- The namespace of the document. -/
  namespaceName : Option String := none
  /-- The table the statements run against. -/
  table : Option String := none
  naming : Style := .lowerUnderScore
  /-- The prefixes of scalar types, in place of the default ones. -/
  opaquePrefixes : Option (List String) := none
  /-- The iterable type, in place of the default one. -/
  iterableType : Option String := none
  /-- Whether the platform's collection types are known. -/
  platformTypes : Bool := true
deriving DecidableEq, Repr

/-- The input of a run. -/
structure Manifest where
  /-- The name of the mapper type. -/
  mapper : String
  settings : Settings := {}
  types : List TypeDecl := []
deriving DecidableEq, Repr

/-- What follows the last dot of a qualified name. -/
def simpleName (qualified : String) : String :=
  String.ofList (qualified.toList.reverse.takeWhile (· != '.')).reverse

/-- The name without the ending `Mapper`, unless nothing would be left. -/
def entityName (name : String) : String :=
  let ending := "Mapper".toList
  if ending.isSuffixOf name.toList && name.length > ending.length then
    String.ofList (name.toList.take (name.length - ending.length))
  else name

namespace Manifest

/-- The namespace of the document: the mapper's name unless it is set. -/
def namespaceName (m : Manifest) : String := m.settings.namespaceName.getD m.mapper

/-- The table: the converted name of the mapper's entity unless it is set. -/
def table (m : Manifest) : String :=
  match m.settings.table with
  | some table => table
  | none => m.settings.naming.convert (decapitalize (entityName (simpleName m.mapper)))

/-- The known types: those of the manifest, on top of the platform's unless those are switched
off. -/
def typeTable (m : Manifest) : TypeTable :=
  (if m.settings.platformTypes then TypeTable.platform else TypeTable.empty).insertAll m.types

/-- The resolver with the manifest's types and settings. -/
def resolver (m : Manifest) : Resolver where
  table := m.typeTable
  naming := m.settings.naming.convert
  opaquePrefixes := m.settings.opaquePrefixes.getD defaultOpaquePrefixes
  iterableType := m.settings.iterableType.getD defaultIterableType

end Manifest

/-- Why a manifest cannot be used. -/
inductive ManifestError
  /-- The file cannot be read. -/
  | unreadable (cause : ReadFailure)
  | malformedYaml
  | malformedJson
  | unsupportedFormat (extension : String)
  | unknownMapper (name : String)
deriving DecidableEq, Repr

/-- The message of a manifest error. What is wrong with a malformed text is not told. -/
def ManifestError.message : ManifestError → String
  | .unreadable cause => "failed to read manifest: " ++ cause.message
  | .malformedYaml | .malformedJson => "failed to parse manifest: "
  | .unsupportedFormat extension =>
    s!"unsupported manifest format `{extension}` (expected .yaml, .yml or .json)"
  | .unknownMapper name => s!"mapper type `{name}` is not declared in the manifest"

end DerivedQuery
