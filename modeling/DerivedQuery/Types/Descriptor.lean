import DerivedQuery.Json.Basic

/-!
# Descriptors

What a type is to a statement: a scalar, nothing, an iterable of something, or a bean whose fields
are columns.

Mirrors `TypeDescriptor` and `BeanField`.
-/

namespace DerivedQuery.Types

/-- A property of a bean and the column it is mapped to. -/
structure BeanField where
  name : String
  column : String
  /-- Whether the database generates the value on insertion. -/
  generatedKey : Bool
deriving DecidableEq, Repr

/-- The classification of a type. -/
inductive Descriptor
  | scalar (name : String)
  | void
  | iterable (name : String) (element : Descriptor)
  | bean (name : String) (fields : List BeanField)
deriving DecidableEq, Repr

namespace Descriptor

/-- The name of the type. -/
def qualifiedName : Descriptor → String
  | scalar name | iterable name _ | bean name _ => name
  | void => "void"

/-- The element of an iterable. -/
def element? : Descriptor → Option Descriptor
  | iterable _ element => some element
  | _ => none

/-- The fields of a bean. -/
def fields : Descriptor → List BeanField
  | bean _ fields => fields
  | _ => []

/-- The innermost element. -/
def leaf : Descriptor → Descriptor
  | iterable _ element => element.leaf
  | d => d

/-- Whether the type is an iterable. -/
def isIterable : Descriptor → Bool
  | iterable _ _ => true
  | _ => false

/-- Whether the innermost element is a bean. -/
def isBean (d : Descriptor) : Bool :=
  match d.leaf with
  | bean _ _ => true
  | _ => false

/-- The fields of the innermost bean. -/
def beanFields (d : Descriptor) : List BeanField := d.leaf.fields

end Descriptor

/-- The field as it is shown. -/
def BeanField.toJson (f : BeanField) : Json :=
  .ofMembers [
    ("name", .text f.name), ("column", .text f.column), ("generated_key", .bool f.generatedKey)]

/-- The descriptor as it is shown, tagged by its kind. -/
def Descriptor.toJson : Descriptor → Json
  | .scalar name => .ofMembers [("kind", .text "scalar"), ("name", .text name)]
  | .void => .ofMembers [("kind", .text "void")]
  | .iterable name element =>
    .ofMembers [("kind", .text "iterable"), ("name", .text name), ("element", element.toJson)]
  | .bean name fields =>
    .ofMembers [
      ("kind", .text "bean"), ("name", .text name),
      ("fields", .array (fields.map BeanField.toJson))]

end DerivedQuery.Types
