import DerivedQuery.Naming.Style
import DerivedQuery.Types.Closure
import DerivedQuery.Types.Descriptor

/-!
# Resolving types

A type is classified as seen from an owner, the mapper whose member mentions it. Arrays and the
implementors of the iterable type are iterables of their element; the types under an opaque prefix
are scalars; every other declared type is a bean. A type variable stands for the argument that the
owner supplies to the generic declaration, however far up the hierarchy that is.

Only arrays and iterables add to the depth, which may not pass `maxDepth`, and a variable may not
be met a second time on the way; so resolving ends, however the declarations refer to one another.

Mirrors `TypeResolver` with `resolve`, `resolve_at`, `resolve_var`, `is_iterable`, `is_opaque`,
`resolve_bean` and `bean_field`, its patterns `GETTER` and `SETTER`, `ResolverConfig` and
`ResolveError`.
-/

namespace DerivedQuery.Types

open DerivedQuery.Naming

/-- The deepest nesting of arrays and iterables that still resolves. -/
def maxDepth : Nat := 2

/-- Why a type cannot be classified. -/
inductive ResolveError
  | depthExceeded (type : String)
  | rawIterable (name : String)
  | unknownType (name : String)
  | unresolvedVariable (name owner : String)
  | cyclicVariable (name owner : String)
deriving DecidableEq, Repr

/-- The message of a resolution error. -/
def ResolveError.message : ResolveError → String
  | .depthExceeded type => s!"`{type}` is nested deeper than {maxDepth} levels"
  | .rawIterable name => s!"iterable type `{name}` has no type argument"
  | .unknownType name => s!"unknown type `{name}`"
  | .unresolvedVariable name owner => s!"type variable `{name}` of `{owner}` cannot be resolved"
  | .cyclicVariable name owner => s!"type variable `{name}` of `{owner}` resolves back to itself"

/-- The namespaces whose types are scalars unless a manifest lists its own. -/
def defaultOpaquePrefixes : List String :=
  ["java.applet", "java.awt", "java.beans", "java.io", "java.lang", "java.math", "java.net",
   "java.nio", "java.rmi", "java.security", "java.sql", "java.text", "java.time", "java.util"]

/-- The type whose implementors are iterables unless a manifest names another. -/
def defaultIterableType : String := "java.lang.Iterable"

/-- The known types and the rules by which they are classified. -/
structure Resolver where
  table : TypeTable
  naming : Converter
  /-- Declared types under these prefixes are scalars. -/
  opaquePrefixes : List String := defaultOpaquePrefixes
  /-- The type whose implementors are iterables. -/
  iterableType : String := defaultIterableType

/-- What follows a three-letter word at the start of a method name, if anything but a line feed
does. -/
def accessorStem? (word name : String) : Option String :=
  if word.toList.isPrefixOf name.toList then
    let stem := name.toList.drop word.length
    if stem.isEmpty || stem.contains '\n' then none else some (String.ofList stem)
  else none

namespace Resolver

/-- Whether a type is the iterable type or one of its implementors. -/
def isIterable (r : Resolver) (type : TypeRef) : Bool :=
  type.erasure? == some r.iterableType ||
    (r.table.closure type).any (·.erasure? == some r.iterableType)

/-- Whether a name lies under an opaque prefix. -/
def isOpaque (r : Resolver) (name : String) : Bool :=
  r.opaquePrefixes.any fun p => p.toList.isPrefixOf name.toList

/-! ## Beans -/

/-- The declarations of a type and its supertypes, the farthest first and its own last. -/
def lineage (r : Resolver) (type : TypeRef) : List TypeDecl :=
  ((r.table.closure type).reverse ++ [type]).filterMap fun t =>
    t.erasure?.bind r.table.find?

/-- The fields of which no earlier one has the same name. -/
def firstByName : List FieldDecl → List FieldDecl
  | [] => []
  | f :: rest => f :: (firstByName rest).filter (·.name != f.name)

/-- The properties that a method named `word` and a stem stands for, by the methods' names. -/
def accessorProperties (word : String) (decls : List TypeDecl) : List String :=
  (decls.flatMap (·.methods)).filterMap fun m => (accessorStem? word m.name).map decapitalize

/-- The property of a bean that a field declares. -/
def beanField (r : Resolver) (f : FieldDecl) : BeanField :=
  ⟨f.name, f.column.getD (r.naming (decapitalize f.name)), f.generatedKey⟩

/-- The fields that can be read and written, each from the first declaration that has it. -/
def beanFields (r : Resolver) (decls : List TypeDecl) : List BeanField :=
  let readable := accessorProperties "get" decls
  let writable := accessorProperties "set" decls
  (firstByName (decls.flatMap (·.fields))).filterMap fun f =>
    let property := decapitalize f.name
    if readable.contains property && writable.contains property then some (r.beanField f) else none

/-- The bean a declared type is. -/
def resolveBean (r : Resolver) (type : TypeRef) (name : String) : Except ResolveError Descriptor :=
  if r.table.contains name then .ok (.bean name (r.beanFields (r.lineage type)))
  else .error (.unknownType name)

/-! ## Variables -/

/-- Every type parameter of every declaration, with the declaration's name first. -/
def variableNames (r : Resolver) : List (String × String) :=
  r.table.decls.flatMap fun d => d.typeParams.map fun p => (d.name, p)

/-- The variables that have not been met. -/
def unmetVariables (r : Resolver) (met : List (String × String)) : List (String × String) :=
  r.variableNames.filter fun v => !met.contains v

/-- The argument that `owner` supplies for a type parameter of `declaring`. -/
def argument? (r : Resolver) (owner : TypeRef) (name declaring : String) : Option TypeRef :=
  match (r.table.typeParams declaring).idxOf? name with
  | none => none
  | some index =>
    (owner :: r.table.closure owner).findSome? fun t =>
      if t.erasure? = some declaring then t.args[index]? else none

theorem mem_variables_of_argument? {r : Resolver} {owner arg : TypeRef} {name declaring : String}
    (h : r.argument? owner name declaring = some arg) : (declaring, name) ∈ r.variableNames := by
  unfold argument? at h
  split at h
  · simp at h
  · next index hindex =>
    have hmem : name ∈ r.table.typeParams declaring := by
      have hsome : (List.idxOf? name (r.table.typeParams declaring)).isSome := by
        rw [hindex]; rfl
      rwa [List.isSome_idxOf?] at hsome
    unfold TypeTable.typeParams at hmem
    cases hd : r.table.find? declaring with
    | none => rw [hd] at hmem; simp at hmem
    | some d =>
      rw [hd] at hmem
      obtain ⟨hdecl, rfl⟩ := TypeTable.find?_mem hd
      exact List.mem_flatMap.2 ⟨d, hdecl, List.mem_map.2 ⟨name, by simpa using hmem, rfl⟩⟩

/-- Meeting a variable of the table for the first time leaves fewer variables unmet. -/
theorem length_unmetVariables_lt {r : Resolver} {met : List (String × String)}
    {v : String × String} (hv : v ∈ r.variableNames) (hmet : ¬ v ∈ met) :
    (r.unmetVariables (v :: met)).length < (r.unmetVariables met).length := by
  refine TypeTable.length_filter_lt_of_imp _ _ _ ?_ hv ?_ ?_
  · intro w _ h
    simp_all
  · simp
  · simpa using hmet

/-- Classifies a type at a depth, after the variables that have been met on the way. -/
def resolveAt (r : Resolver) (owner : TypeRef) (depth : Nat) (met : List (String × String))
    (type : TypeRef) : Except ResolveError Descriptor :=
  if _hd : depth > maxDepth then .error (.depthExceeded type.print)
  else
    match type with
    | .primitive name => .ok (.scalar name)
    | .void => .ok .void
    | .array element =>
      (r.resolveAt owner (depth + 1) met element).map (.iterable (TypeRef.array element).print)
    | .declared name args =>
      if r.isIterable (.declared name args) then
        match args with
        | [] => .error (.rawIterable name)
        | arg :: _ => (r.resolveAt owner (depth + 1) met arg).map (.iterable name)
      else if r.isOpaque name then .ok (.scalar name)
      else r.resolveBean (.declared name args) name
    | .var name declaring =>
      if _hm : (declaring, name) ∈ met then .error (.cyclicVariable name declaring)
      else
        match _ha : r.argument? owner name declaring with
        | none => .error (.unresolvedVariable name declaring)
        | some arg => r.resolveAt owner depth ((declaring, name) :: met) arg
termination_by (maxDepth + 1 - depth, (r.unmetVariables met).length)
decreasing_by
  · exact Prod.Lex.left _ _ (by omega)
  · exact Prod.Lex.left _ _ (by omega)
  · exact Prod.Lex.right _ (length_unmetVariables_lt (mem_variables_of_argument? _ha) _hm)

/-- Classifies a type as it appears in a member of `owner`. -/
def resolve (r : Resolver) (owner type : TypeRef) : Except ResolveError Descriptor :=
  r.resolveAt owner 0 [] type

end Resolver

end DerivedQuery.Types
