import DerivedQuery.Method.Bound
import DerivedQuery.Types.Resolver

/-!
# Binding methods

Binding classifies the types of a declared method as seen from the mapper. A return type that
cannot be classified rejects the method; a parameter that cannot be classified is dropped.

Mirrors the `bind` of `MethodBinder`, and `BindError`.
-/

namespace DerivedQuery

open DerivedQuery.Naming DerivedQuery.Types

/-- Why a method cannot be bound. -/
inductive BindError
  | unsupportedReturn (method : String) (cause : ResolveError)
deriving DecidableEq, Repr

/-- The message of a binding error. -/
def BindError.message : BindError → String
  | .unsupportedReturn method cause =>
    s!"return type of `{method}` is not supported: " ++ cause.message

/-- The parameter as statements see it: under its alias, if it has one, and with the column it
names or the one that its name is converted to. -/
def bindParam (naming : Converter) (p : ParamDecl) (type : Descriptor) : Param :=
  let name := p.alternate.getD p.name
  ⟨type, name, p.column.getD (naming (decapitalize name))⟩

/-- The parameters whose types can be classified, and the names of the others. -/
def bindParams (r : Resolver) (owner : TypeRef) : List ParamDecl → List Param × List String
  | [] => ([], [])
  | p :: rest =>
    let (params, dropped) := bindParams r owner rest
    match r.resolve owner p.type with
    | .ok type => (bindParam r.naming p type :: params, dropped)
    | .error _ => (params, p.name :: dropped)

/-- The method as seen from the mapper `owner`. -/
def bindMethod (r : Resolver) (owner : TypeRef) (m : MethodDecl) : Except BindError BoundMethod :=
  match r.resolve owner m.returns with
  | .error cause => .error (.unsupportedReturn m.name cause)
  | .ok returns =>
    let (params, dropped) := bindParams r owner m.params
    .ok ⟨m.name, params, returns, dropped⟩

end DerivedQuery
