/-!
# References to types

A `TypeRef` is a type as a declaration mentions it: a primitive, an array, a declared type with its
arguments, or a variable of a generic declaration. `linkVars` turns the bare names that are type
parameters of a declaration into its variables, and `substitute` replaces the variables of a
declaration by arguments.

Mirrors `TypeRef` with `erasure`, `args`, `link_vars`, `substitute` and its printed form.
-/

namespace DerivedQuery.Types

/-- A type as it is mentioned. -/
inductive TypeRef
  | primitive (name : String)
  | void
  | array (element : TypeRef)
  /-- A class or interface with its type arguments. -/
  | declared (name : String) (args : List TypeRef)
  /-- The type parameter `name` of the declaration `owner`. -/
  | var (name owner : String)
deriving Repr, Inhabited

namespace TypeRef

mutual

/-- Whether two types are equal. -/
def decEq : (s t : TypeRef) → Decidable (s = t)
  | .primitive a, .primitive b =>
    if h : a = b then isTrue (by rw [h]) else isFalse (by intro e; cases e; exact h rfl)
  | .void, .void => isTrue rfl
  | .array s, .array t =>
    match decEq s t with
    | isTrue h => isTrue (by rw [h])
    | isFalse h => isFalse (by intro e; cases e; exact h rfl)
  | .declared a ss, .declared b ts =>
    if h : a = b then
      match decEqList ss ts with
      | isTrue h' => isTrue (by rw [h, h'])
      | isFalse h' => isFalse (by intro e; cases e; exact h' rfl)
    else isFalse (by intro e; cases e; exact h rfl)
  | .var a o, .var b p =>
    if h : a = b ∧ o = p then isTrue (by rw [h.1, h.2])
    else isFalse (by intro e; cases e; exact h ⟨rfl, rfl⟩)
  | .primitive _, .void | .primitive _, .array _ | .primitive _, .declared _ _
  | .primitive _, .var _ _ | .void, .primitive _ | .void, .array _ | .void, .declared _ _
  | .void, .var _ _ | .array _, .primitive _ | .array _, .void | .array _, .declared _ _
  | .array _, .var _ _ | .declared _ _, .primitive _ | .declared _ _, .void
  | .declared _ _, .array _ | .declared _ _, .var _ _ | .var _ _, .primitive _ | .var _ _, .void
  | .var _ _, .array _ | .var _ _, .declared _ _ => isFalse (by intro e; cases e)

/-- Whether two lists of types are equal. -/
def decEqList : (ss ts : List TypeRef) → Decidable (ss = ts)
  | [], [] => isTrue rfl
  | [], _ :: _ | _ :: _, [] => isFalse (by intro e; cases e)
  | s :: ss, t :: ts =>
    match decEq s t with
    | isFalse h => isFalse (by intro e; cases e; exact h rfl)
    | isTrue h =>
      match decEqList ss ts with
      | isTrue h' => isTrue (by rw [h, h'])
      | isFalse h' => isFalse (by intro e; cases e; exact h' rfl)

end

instance : DecidableEq TypeRef := decEq

/-- A declared type without arguments. -/
def simple (name : String) : TypeRef := .declared name []

/-- The name of a declared type without its arguments. -/
def erasure? : TypeRef → Option String
  | .declared name _ => some name
  | _ => none

/-- The arguments of a declared type. -/
def args : TypeRef → List TypeRef
  | .declared _ args => args
  | _ => []

mutual

/-- The type with every bare mention of one of `params` turned into a variable of `owner`. -/
def linkVars (params : List String) (owner : String) : TypeRef → TypeRef
  | .declared name [] => if params.contains name then .var name owner else .declared name []
  | .declared name (arg :: args) =>
    .declared name (arg.linkVars params owner :: linkVarsAll params owner args)
  | .array element => .array (element.linkVars params owner)
  | .primitive name => .primitive name
  | .void => .void
  | .var name other => .var name other

/-- `linkVars` on every type of a list. -/
def linkVarsAll (params : List String) (owner : String) : List TypeRef → List TypeRef
  | [] => []
  | t :: ts => t.linkVars params owner :: linkVarsAll params owner ts

end

/-- The argument at the place that `name` has among the parameters. -/
def argumentFor? (params : List String) (args : List TypeRef) (name : String) : Option TypeRef :=
  (params.idxOf? name).bind (args[·]?)

mutual

/-- The type with every variable of `owner` replaced by the argument in the parameter's place. A
variable without an argument stays. -/
def substitute (owner : String) (params : List String) (args : List TypeRef) : TypeRef → TypeRef
  | .var name other =>
    if other = owner then (argumentFor? params args name).getD (.var name other)
    else .var name other
  | .declared name inner => .declared name (substituteAll owner params args inner)
  | .array element => .array (element.substitute owner params args)
  | .primitive name => .primitive name
  | .void => .void

/-- `substitute` on every type of a list. -/
def substituteAll (owner : String) (params : List String) (args : List TypeRef) :
    List TypeRef → List TypeRef
  | [] => []
  | t :: ts => t.substitute owner params args :: substituteAll owner params args ts

end

mutual

/-- The type in its written form. A variable is written by its name alone. -/
def print : TypeRef → String
  | .primitive name => name
  | .void => "void"
  | .array element => element.print ++ "[]"
  | .declared name [] => name
  | .declared name (arg :: args) => name ++ "<" ++ arg.print ++ printRest args ++ ">"
  | .var name _ => name

/-- The types in their written form, a comma before each. -/
def printRest : List TypeRef → String
  | [] => ""
  | t :: ts => ", " ++ t.print ++ printRest ts

end

end TypeRef

end DerivedQuery.Types
