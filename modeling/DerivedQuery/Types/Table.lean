import DerivedQuery.Types.Decl

/-!
# Tables of types

A table holds the declarations a run knows, each linked and at most one of each name: inserting a
declaration replaces an earlier one of its name.

`TypeTable.supertypes` gives the direct supertypes of a type with the type's arguments in place of
the declaration's variables.

Mirrors `TypeTable` with `with_platform_types`, `insert`, `supertypes`, `declared_members` and
`type_parameters`.
-/

namespace DerivedQuery.Types

/-- The known declarations. -/
structure TypeTable where
  decls : List TypeDecl
deriving DecidableEq, Repr

namespace TypeTable

/-- The table without declarations. -/
def empty : TypeTable := ⟨[]⟩

/-- The declaration of a name. -/
def find? (table : TypeTable) (name : String) : Option TypeDecl :=
  table.decls.find? (·.name == name)

/-- Whether a name is declared. -/
def contains (table : TypeTable) (name : String) : Bool := (table.find? name).isSome

/-- The number of declarations. -/
def size (table : TypeTable) : Nat := table.decls.length

/-- The table with one more declaration, in place of an earlier one of its name. -/
def insert (table : TypeTable) (d : TypeDecl) : TypeTable :=
  ⟨table.decls.filter (·.name != d.name) ++ [d.linked]⟩

/-- The table with the declarations inserted one after another. -/
def insertAll (table : TypeTable) (decls : List TypeDecl) : TypeTable :=
  decls.foldl insert table

/-- The names of the type parameters of a declaration. -/
def typeParams (table : TypeTable) (name : String) : List String :=
  ((table.find? name).map (·.typeParams)).getD []

/-- The direct supertypes of a type, the superclass first, with the type's arguments put in. The
supertypes of a type without arguments are those that are declared. -/
def supertypes (table : TypeTable) (type : TypeRef) : List TypeRef :=
  match type with
  | .declared name args =>
    match table.find? name with
    | none => []
    | some d =>
      if args.isEmpty then d.supertypes
      else d.supertypes.map (·.substitute d.name d.typeParams args)
  | _ => []

theorem find?_insert_self (table : TypeTable) (d : TypeDecl) :
    (table.insert d).find? d.name = some d.linked := by
  have hname : d.linked.name = d.name := rfl
  have hnone : (table.decls.filter (·.name != d.name)).find? (·.name == d.name) = none := by
    simp [List.find?_eq_none]
  simp [find?, insert, List.find?_append, hnone, hname]

end TypeTable

/-! ## The collection types of the platform -/

/-- An interface with one type parameter that extends another one with the same argument. -/
def collectionInterface (name parent : String) : TypeDecl :=
  { name := name, kind := .interfaceType, typeParams := ["E"]
    interfaces := [.declared parent [.simple "E"]] }

/-- A class with one type parameter that implements interfaces with the same argument. -/
def collectionClass (name : String) (parents : List String) : TypeDecl :=
  { name := name, typeParams := ["E"]
    interfaces := parents.map fun parent => .declared parent [.simple "E"] }

/-- The iterable types that every manifest can refer to. -/
def platformDecls : List TypeDecl := [
  { name := "java.lang.Iterable", kind := .interfaceType, typeParams := ["T"] },
  collectionInterface "java.util.Collection" "java.lang.Iterable",
  collectionInterface "java.util.List" "java.util.Collection",
  collectionInterface "java.util.Set" "java.util.Collection",
  collectionInterface "java.util.Queue" "java.util.Collection",
  collectionInterface "java.util.SortedSet" "java.util.Set",
  collectionInterface "java.util.Deque" "java.util.Queue",
  collectionClass "java.util.ArrayList" ["java.util.List"],
  collectionClass "java.util.LinkedList" ["java.util.List", "java.util.Deque"],
  collectionClass "java.util.HashSet" ["java.util.Set"],
  { name := "java.util.LinkedHashSet", typeParams := ["E"]
    superclass := some (.declared "java.util.HashSet" [.simple "E"]) },
  collectionClass "java.util.TreeSet" ["java.util.SortedSet"]]

namespace TypeTable

/-- The table of the platform's collection types. -/
def platform : TypeTable := empty.insertAll platformDecls

end TypeTable

end DerivedQuery.Types
