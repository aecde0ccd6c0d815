import DerivedQuery.Query.Operator
import DerivedQuery.Types.Descriptor

/-!
# Bound methods

A method whose parameter and return types have been classified. A parameter whose type could not be
classified is not among the parameters; `dropped` keeps its name, because the places of the others
no longer tell which operand they are.

Mirrors `Param`, `Return` and `MethodInfo`.
-/

namespace DerivedQuery

open DerivedQuery.Types

/-- A parameter by the name statements use for it. -/
structure Param where
  type : Descriptor
  name : String
  column : String
deriving DecidableEq, Repr

namespace Param

/-- Whether the parameter is an iterable. -/
def isIterable (p : Param) : Bool := p.type.isIterable

/-- Whether the parameter is a bean or an iterable of beans. -/
def isBean (p : Param) : Bool := p.type.isBean

/-- The fields of the innermost bean. -/
def beanFields (p : Param) : List BeanField := p.type.beanFields

end Param

/-- A method with classified types. -/
structure BoundMethod where
  name : String
  params : List Param
  returns : Descriptor
  /-- The declared names of the parameters that were left out. -/
  dropped : List String
deriving DecidableEq, Repr

namespace BoundMethod

/-- The first parameter of a name. -/
def param? (m : BoundMethod) (name : String) : Option Param := m.params.find? (·.name == name)

/-- The method with its operation, as it is shown. -/
def toJson (m : BoundMethod) (operation : Operation) : Json :=
  .ofMembers ([
    ("name", .text m.name),
    ("operation", .text operation.name),
    ("params", .array (m.params.map fun p => .ofMembers [
      ("type", p.type.toJson), ("name", .text p.name), ("column", .text p.column),
      ("is_iterable", .bool p.isIterable), ("is_bean", .bool p.isBean),
      ("bean_fields", .array (p.beanFields.map BeanField.toJson))])),
    ("return", .ofMembers [
      ("type", m.returns.toJson), ("is_iterable", .bool m.returns.isIterable),
      ("is_bean", .bool m.returns.isBean),
      ("bean_fields", .array (m.returns.beanFields.map BeanField.toJson))])] ++
    if m.dropped.isEmpty then [] else [("dropped", .texts m.dropped)])

end BoundMethod

end DerivedQuery
