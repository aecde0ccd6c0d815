import DerivedQuery.Json.Text

/-!
# JSON values

A `Json` is a JSON text without its blanks. Numbers and strings are kept as they are spelled and
the members of an object in their order, repeated names included, since what becomes of them is
for the reader of the value to say.
-/

namespace DerivedQuery

/-- A JSON value as it is spelled. -/
inductive Json
  | null
  | bool (value : Bool)
  | number (literal : String)
  /-- A string by the literal between its quotes. -/
  | string (literal : String)
  | array (items : List Json)
  /-- An object by its members; a name is a literal like that of a string. -/
  | object (members : List (String × Json))
deriving Repr, Inhabited

namespace Json

/-- The string value of a text. -/
def text (s : String) : Json := .string (encode s)

/-- The string value of a text, or null. -/
def optionalText : Option String → Json
  | some s => text s
  | none => .null

/-- The number value of a natural number. -/
def nat (n : Nat) : Json := .number (toString n)

/-- The array of texts. -/
def texts (items : List String) : Json := .array (items.map text)

/-- The object with the named members. -/
def ofMembers (members : List (String × Json)) : Json :=
  .object (members.map fun (name, value) => (encode name, value))

/-- The nesting of a value: scalars have none, an empty array or object has one level. -/
def depth : Json → Nat
  | .array items => depthOfItems items + 1
  | .object members => depthOfMembers members + 1
  | _ => 0
where
  /-- The greatest nesting of the items. -/
  depthOfItems : List Json → Nat
    | [] => 0
    | v :: rest => max v.depth (depthOfItems rest)
  /-- The greatest nesting of the members. -/
  depthOfMembers : List (String × Json) → Nat
    | [] => 0
    | (_, v) :: rest => max v.depth (depthOfMembers rest)

end Json

end DerivedQuery
