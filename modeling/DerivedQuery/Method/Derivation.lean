import DerivedQuery.Method.Binding
import DerivedQuery.Method.Candidate
import DerivedQuery.MethodName.Parser

/-!
# Derivation

A method is derived by parsing its name and binding its signature. A method for which either fails
is skipped, and the others are not affected.

Mirrors `derive_method`, `derive_methods`, `SkipReason` and `SkippedMethod`.
-/

namespace DerivedQuery

open DerivedQuery.MethodName DerivedQuery.Types

/-- A method with the query its name stands for. -/
structure DerivedMethod where
  query : Query
  method : BoundMethod
deriving DecidableEq, Repr

/-- Why a method is skipped. -/
inductive SkipReason
  | notDerivable (cause : ParseError)
  | rejected (cause : BindError)
deriving DecidableEq, Repr

/-- The message for a skipped method. -/
def SkipReason.message : SkipReason → String
  | .notDerivable cause => "not derivable: " ++ cause.message
  | .rejected cause => "rejected: " ++ cause.message

/-- A method that no query was derived for. -/
structure SkippedMethod where
  name : String
  reason : SkipReason
deriving DecidableEq, Repr

/-- The query and the bound signature of a method, or why there is none. -/
def deriveMethod (r : Resolver) (owner : TypeRef) (m : MethodDecl) :
    Except SkippedMethod DerivedMethod :=
  match parse m.name with
  | .error cause => .error ⟨m.name, .notDerivable cause⟩
  | .ok query =>
    match bindMethod r owner m with
    | .error cause => .error ⟨m.name, .rejected cause⟩
    | .ok bound => .ok ⟨query, bound⟩

/-- The derivations of all candidates of a mapper. -/
def deriveMethods (r : Resolver) (mapper : String) : List (Except SkippedMethod DerivedMethod) :=
  (candidates r.table mapper).map fun c => deriveMethod r (.simple mapper) c.method

end DerivedQuery
