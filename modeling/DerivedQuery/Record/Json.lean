import DerivedQuery.Json.Number
import DerivedQuery.Json.Printer
import DerivedQuery.Json.Reader
import DerivedQuery.Record.Layer

/-!
# Records in JSON

The fields of a record are the members of an object, or the items of an array in the order of the
fields. Members of other names are passed over, whatever they hold. An enumeration is a string, or
an object with that name and null.

Values are read down to a number of levels. A fragment is checked throughout: it may not be nested
too deeply anywhere, its strings have to be texts and its numbers finite.
-/

namespace DerivedQuery.Record

/-- The number of levels of arrays and objects that are read. -/
def jsonLevels : Nat := 127

/-- The content of a number: a natural number of at most 64 bits, or another finite number. -/
def contentOfNumber? (literal : String) : Option Content :=
  let chars := literal.toList
  if chars.all Char.isDigit && Decimal.digitsValue chars < Nat.pow 2 64 then
    some (.natural (Decimal.digitsValue chars))
  else
    let unsigned := if chars.head? = some '-' then chars.tail else chars
    if Json.isFiniteLiteral unsigned then some .number else none

mutual

/-- The content of a value, if all its strings are texts and its numbers finite. -/
def contentOfJson? : Json → Option Content
  | .null => some .null
  | .bool b => some (.flag b)
  | .number literal => contentOfNumber? literal
  | .string literal => (Json.decode? literal).map .text
  | .array items => (contentOfItems? items).map .list
  | .object members => (contentOfMembers? members).map .map

/-- The contents of items. -/
def contentOfItems? : List Json → Option (List Content)
  | [] => some []
  | v :: rest => do return (← contentOfJson? v) :: (← contentOfItems? rest)

/-- The contents of members. -/
def contentOfMembers? : List (String × Json) → Option (List (Content × Content))
  | [] => some []
  | (name, v) :: rest => do
    let key ← Json.decode? name
    return (.text key, ← contentOfJson? v) :: (← contentOfMembers? rest)

end

/-- A value with the number of levels that may still be entered. -/
structure JsonPlace where
  levels : Nat
  value : Json

namespace JsonPlace

/-- The text of a string. -/
def text? (p : JsonPlace) : Option String :=
  match p.value with
  | .string literal => Json.decode? literal
  | _ => none

/-- The truth value. -/
def flag? (p : JsonPlace) : Option Bool :=
  match p.value with
  | .bool b => some b
  | _ => none

/-- The word of a case: a string, or the only name of an object that holds null. -/
def word? (p : JsonPlace) : Option String :=
  match p.value with
  | .string literal => Json.decode? literal
  | .object [(name, .null)] => Json.decode? name
  | _ => none

/-- Null holds nothing; any other value is there. -/
def optional? (p : JsonPlace) : Option (Option JsonPlace) :=
  match p.value with
  | .null => some none
  | _ => some (some p)

/-- The items of an array, one level further in. -/
def items? (p : JsonPlace) : Option (List JsonPlace) :=
  match p.levels, p.value with
  | levels + 1, .array items => some (items.map (⟨levels, ·⟩))
  | _, _ => none

/-- The fields of a record, one level further in. -/
def fields? (names : List String) (p : JsonPlace) : Option (List (Option JsonPlace)) :=
  match p.levels, p.value with
  | levels + 1, .object members => do
    let placed ← members.mapM fun (name, v) => do
      return (names.idxOf? (← Json.decode? name), JsonPlace.mk levels v)
    fillPlaces names.length placed
  | levels + 1, .array items => padPlaces names.length (items.map (⟨levels, ·⟩))
  | _, _ => none

/-- The content of a value that is not nested too deeply. -/
def content? (p : JsonPlace) : Option Content :=
  if p.value.depth ≤ p.levels then contentOfJson? p.value else none

end JsonPlace

/-- How JSON values are taken. -/
def jsonSource : Source Option JsonPlace where
  text? := JsonPlace.text?
  flag? := JsonPlace.flag?
  word? := JsonPlace.word?
  optional? := JsonPlace.optional?
  items? := JsonPlace.items?
  fields? := JsonPlace.fields?
  content? := JsonPlace.content?

/-- JSON as a text layer. -/
def jsonLayer : TextLayer where
  Value := JsonPlace
  print overLines t := t.toJson.print overLines
  read? text := (Json.read? text).map fun v => ⟨jsonLevels, v⟩
  source := jsonSource

end DerivedQuery.Record
