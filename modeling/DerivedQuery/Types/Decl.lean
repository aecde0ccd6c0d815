import DerivedQuery.Naming.Camel
import DerivedQuery.Types.TypeRef

/-!
# Declarations of types

What a manifest says about a class or an interface: its type parameters, its supertypes, its fields
and its methods.

In the text of a declaration a type parameter looks like a class of that name. `TypeDecl.linked`
tells them apart.

Mirrors `TypeDecl`, `FieldDecl`, `MethodDecl` and `ParamDecl` with `signature`, `linked`, `getter`,
`setter` and `property`.
-/

namespace DerivedQuery.Types

open DerivedQuery.Naming

/-- Whether a declaration is one of a class or of an interface. -/
inductive DeclKind
  | classType
  | interfaceType
deriving DecidableEq, Repr

/-- The word for a kind in a manifest. -/
def DeclKind.name : DeclKind → String
  | .classType => "class"
  | .interfaceType => "interface"

/-- A field. -/
structure FieldDecl where
  name : String
  type : TypeRef
  /-- The column the field is mapped to, if the declaration gives one. -/
  column : Option String := none
  /-- Whether the database generates the value on insertion. -/
  generatedKey : Bool := false
deriving DecidableEq, Repr

/-- A parameter of a method. -/
structure ParamDecl where
  name : String
  type : TypeRef
  /-- The name statements use for the parameter, if it is not its own. -/
  alternate : Option String := none
  /-- The column the parameter belongs to, if the declaration gives one. -/
  column : Option String := none
deriving DecidableEq, Repr

/-- A method. -/
structure MethodDecl where
  name : String
  params : List ParamDecl := []
  returns : TypeRef := .void
  isStatic : Bool := false
  isDefault : Bool := false
  isNative : Bool := false
  /-- A statement written by hand. -/
  statement : Option String := none
deriving DecidableEq, Repr

/-- The types of the parameters, by which methods of one name are told apart. -/
def MethodDecl.signature (m : MethodDecl) : List TypeRef := m.params.map (·.type)

/-- A class or an interface. -/
structure TypeDecl where
  name : String
  kind : DeclKind := .classType
  /-- The names of the type parameters in order. -/
  typeParams : List String := []
  superclass : Option TypeRef := none
  interfaces : List TypeRef := []
  fields : List FieldDecl := []
  methods : List MethodDecl := []
deriving DecidableEq, Repr

namespace TypeDecl

/-- The superclass and then the interfaces, as they are declared. -/
def supertypes (d : TypeDecl) : List TypeRef := d.superclass.toList ++ d.interfaces

/-- The declaration with `f` applied to every type in it. -/
def mapTypes (f : TypeRef → TypeRef) (d : TypeDecl) : TypeDecl :=
  { d with
    superclass := d.superclass.map f
    interfaces := d.interfaces.map f
    fields := d.fields.map fun field => { field with type := f field.type }
    methods := d.methods.map fun m =>
      { m with
        returns := f m.returns
        params := m.params.map fun p => { p with type := f p.type } } }

/-- The declaration with every bare mention of one of its type parameters turned into a
variable. -/
def linked (d : TypeDecl) : TypeDecl := d.mapTypes (·.linkVars d.typeParams d.name)

/-! ## Building declarations -/

/-- The declaration with one more field. -/
def addField (d : TypeDecl) (field : FieldDecl) : TypeDecl :=
  { d with fields := d.fields ++ [field] }

/-- The declaration with one more method. -/
def addMethod (d : TypeDecl) (m : MethodDecl) : TypeDecl := { d with methods := d.methods ++ [m] }

/-- The declaration with one more interface. -/
def addInterface (d : TypeDecl) (t : TypeRef) : TypeDecl :=
  { d with interfaces := d.interfaces ++ [t] }

/-- The declaration with a method that reads the property. -/
def addGetter (d : TypeDecl) (name : String) (type : TypeRef) : TypeDecl :=
  d.addMethod { name := "get" ++ capitalize name, returns := type }

/-- The declaration with a method that assigns the property. -/
def addSetter (d : TypeDecl) (name : String) (type : TypeRef) : TypeDecl :=
  d.addMethod { name := "set" ++ capitalize name, params := [{ name := name, type := type }] }

/-- The declaration with a field and the methods that read and assign it. -/
def addProperty (d : TypeDecl) (name : String) (type : TypeRef) : TypeDecl :=
  ((d.addField { name := name, type := type }).addGetter name type).addSetter name type

end TypeDecl

end DerivedQuery.Types
