import DerivedQuery.Json.Basic

/-!
# Printing JSON

`Json.compact` prints a value on one line without blanks. `Json.pretty` puts every item and member
on a line of its own, two blanks further in than what holds it; empty arrays and objects stay on
one line.
-/

namespace DerivedQuery.Json

/-- A literal between quotes. -/
def quoted (literal : String) : String := "\"" ++ literal ++ "\""

mutual

/-- The value on one line. -/
def compact : Json → String
  | .null => "null"
  | .bool true => "true"
  | .bool false => "false"
  | .number literal => literal
  | .string literal => quoted literal
  | .array items => "[" ++ compactItems items ++ "]"
  | .object members => r"{" ++ compactMembers members ++ r"}"

/-- The items with commas between them. -/
def compactItems : List Json → String
  | [] => ""
  | [v] => v.compact
  | v :: rest => v.compact ++ "," ++ compactItems rest

/-- The members with commas between them. -/
def compactMembers : List (String × Json) → String
  | [] => ""
  | [(name, v)] => quoted name ++ ":" ++ v.compact
  | (name, v) :: rest => quoted name ++ ":" ++ v.compact ++ "," ++ compactMembers rest

end

/-- The start of a line at a level of nesting. -/
def lineStart (level : Nat) : String := "\n" ++ String.ofList (List.replicate (2 * level) ' ')

mutual

/-- The value over several lines, at a level of nesting. -/
def prettyAt (level : Nat) : Json → String
  | .null => "null"
  | .bool true => "true"
  | .bool false => "false"
  | .number literal => literal
  | .string literal => quoted literal
  | .array [] => "[]"
  | .array items => "[" ++ prettyItems (level + 1) items ++ lineStart level ++ "]"
  | .object [] => "{}"
  | .object members => r"{" ++ prettyMembers (level + 1) members ++ lineStart level ++ r"}"

/-- The items on lines at a level. -/
def prettyItems (level : Nat) : List Json → String
  | [] => ""
  | [v] => lineStart level ++ v.prettyAt level
  | v :: rest => lineStart level ++ v.prettyAt level ++ "," ++ prettyItems level rest

/-- The members on lines at a level. -/
def prettyMembers (level : Nat) : List (String × Json) → String
  | [] => ""
  | [(name, v)] => lineStart level ++ quoted name ++ ": " ++ v.prettyAt level
  | (name, v) :: rest =>
    lineStart level ++ quoted name ++ ": " ++ v.prettyAt level ++ "," ++ prettyMembers level rest

end

/-- The value over several lines. -/
def pretty (v : Json) : String := v.prettyAt 0

/-- The value on one line or over several. -/
def print (overLines : Bool) (v : Json) : String := if overLines then v.pretty else v.compact

end DerivedQuery.Json
