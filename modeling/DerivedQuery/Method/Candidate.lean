import DerivedQuery.Types.Closure

/-!
# Candidate methods

The methods that statements may be derived for: those of the mapper and of the types above it, the
ancestors' first. `TypeTable.hierarchy` walks the declarations with a list of what is still to be
done: to enter a name, which puts its supertypes in front, or to leave a declaration, which lists
it. A name is entered only once, so every step shortens the list or meets a declaration for the
first time.

Mirrors `collect_methods`, `collect_from` and `is_derivable`; the list of what was collected and the
set of what was visited are one `Visit`.
-/

namespace DerivedQuery

open DerivedQuery.Types

/-- What the walk over a hierarchy has still to do. -/
inductive Visit
  /-- Visit the supertypes of a name and then its declaration. -/
  | enter (name : String)
  /-- List a declaration whose supertypes have been visited. -/
  | leave (decl : TypeDecl)
deriving DecidableEq, Repr

/-- The visits that the supertypes of a declaration ask for. -/
def enterSupertypes (d : TypeDecl) : List Visit := (d.supertypes.filterMap (·.erasure?)).map .enter

namespace Types.TypeTable

/-- The declarations in the order in which the visits leave them. -/
def visitAll (table : TypeTable) (met : List String) (visits : List Visit) : List TypeDecl :=
  match visits with
  | [] => []
  | .leave d :: rest => d :: table.visitAll met rest
  | .enter name :: rest =>
    if _hm : met.contains name then table.visitAll met rest
    else
      match _hd : table.find? name with
      | none => table.visitAll (name :: met) rest
      | some d => table.visitAll (name :: met) (enterSupertypes d ++ .leave d :: rest)
termination_by ((table.unmet met).length, visits.length)
decreasing_by
  · exact Prod.Lex.right _ (Nat.lt_succ_self _)
  · exact Prod.Lex.right _ (Nat.lt_succ_self _)
  · rcases Nat.lt_or_eq_of_le (length_unmet_le table name met) with hlt | heq
    · exact Prod.Lex.left _ _ hlt
    · rw [heq]
      exact Prod.Lex.right _ (Nat.lt_succ_self _)
  · exact Prod.Lex.left _ _ (length_unmet_lt _hd (by simpa using _hm))

/-- The declarations that a name reaches through supertypes, its own last. -/
def hierarchy (table : TypeTable) (name : String) : List TypeDecl :=
  table.visitAll [] [.enter name]

end Types.TypeTable

/-- The methods of which no earlier one has the same name and parameter types. -/
def distinctMethods : List MethodDecl → List MethodDecl
  | [] => []
  | m :: rest =>
    m :: (distinctMethods rest).filter fun other =>
      !(other.name == m.name && other.signature == m.signature)

/-- Whether a method is one that an implementor has to supply and that nobody wrote by hand. -/
def isDerivable (m : MethodDecl) : Bool :=
  !m.isStatic && !m.isDefault && !m.isNative && m.statement.isNone

/-- A method with the name of the type that declares it. -/
structure Candidate where
  declaringType : String
  method : MethodDecl
deriving DecidableEq, Repr

/-- The candidates that one declaration contributes; the root class has none. -/
def candidatesOf (d : TypeDecl) : List Candidate :=
  if d.name = "java.lang.Object" then []
  else ((distinctMethods d.methods).filter isDerivable).map fun m => ⟨d.name, m⟩

/-- The methods of a mapper that statements may be derived for. -/
def candidates (table : TypeTable) (mapper : String) : List Candidate :=
  (table.hierarchy mapper).flatMap candidatesOf

end DerivedQuery
