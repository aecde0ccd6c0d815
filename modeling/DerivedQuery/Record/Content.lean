import DerivedQuery.Statement.Fragment

/-!
# Fragments from tagged values

A fragment is written as a value that carries the fragment's kind under the name `type` among its
fields, or as the list of its kind and its fields in order. Which fields there are is known only
once the kind is, so the whole value is first brought into a form that no longer depends on the
notation it is written in, its `Content`.

Every part of a content can be read in several ways, as a text, as a list of texts, as a fragment,
as a body. `Content.readings` finds all of them from the inside out, and the kind of the fragment
around a part chooses among them.

Mirrors the derived readers of `SqlFragment`, which is tagged by `type`.
-/

namespace DerivedQuery.Record

/-- A value without the notation it is written in. -/
inductive Content
  | null
  | flag (value : Bool)
  /-- A natural number of at most 64 bits. -/
  | natural (value : Nat)
  /-- Any other number; its value never matters. -/
  | number
  | text (value : String)
  | list (items : List Content)
  | map (entries : List (Content × Content))
deriving Repr, Inhabited

/-- The kinds of fragments. -/
inductive FragmentKind
  | text
  | param
  | when
  | trim
  | forEach
deriving DecidableEq, Repr

namespace FragmentKind

/-- The kinds in the order in which numbers refer to them. -/
def all : List FragmentKind := [.text, .param, .when, .trim, .forEach]

/-- The word for a kind. -/
def name : FragmentKind → String
  | .text => "text"
  | .param => "param"
  | .when => "if"
  | .trim => "trim"
  | .forEach => "for_each"

/-- The kind of a word. -/
def ofName? (word : String) : Option FragmentKind := all.find? (·.name == word)

/-- The names of the fields in order. -/
def fieldNames : FragmentKind → List String
  | .text => ["text"]
  | .param => ["name"]
  | .when => ["test", "body"]
  | .trim => ["prefix", "suffix", "prefix_overrides", "suffix_overrides", "body"]
  | .forEach => ["collection", "item", "open", "separator", "close", "body"]

end FragmentKind

/-- The value at each of `count` places, from values that say which place is theirs. Values without
a place are left out; two values for one place are none. -/
def fillPlaces {α : Type} (count : Nat) (values : List (Option Nat × α)) :
    Option (List (Option α)) :=
  (List.range count).mapM fun place =>
    match values.filter (·.1 == some place) with
    | [] => some none
    | [v] => some (some v.2)
    | _ => none

/-- The value at each of `count` places, from values in the order of the places. The last values
may be missing, but there may not be too many. -/
def padPlaces {α : Type} (count : Nat) (values : List α) : Option (List (Option α)) :=
  if values.length ≤ count then
    some (values.map some ++ List.replicate (count - values.length) none)
  else none

/-- What a part of a content can be read as. -/
structure Readings where
  /-- As the kind of a fragment. -/
  kind? : Option FragmentKind := none
  text? : Option String := none
  texts? : Option (List String) := none
  fragment? : Option Fragment := none
  body? : Option Body := none

/-- The reading of a field that has to be there. -/
def needed {α : Type} (read : Readings → Option α) (field : Option Readings) : Option α :=
  field.bind read

/-- The reading of a field that has a value of its own when it is missing. -/
def orElse {α : Type} (missing : α) (read : Readings → Option α) : Option Readings → Option α
  | none => some missing
  | some r => read r

/-- The fragment of a kind with the given fields. -/
def assemble (kind : FragmentKind) (fields : List (Option Readings)) : Option Fragment :=
  match kind, fields with
  | .text, [text] => do return .text (← needed (·.text?) text)
  | .param, [name] => do return .param (← needed (·.text?) name)
  | .when, [test, body] => do return .when (← needed (·.text?) test) (← needed (·.body?) body)
  | .trim, [opening, closing, openingOverrides, closingOverrides, body] => do
    let rule : TrimRule := {
      opening := ← orElse "" (·.text?) opening
      closing := ← orElse "" (·.text?) closing
      openingOverrides := ← orElse [] (·.texts?) openingOverrides
      closingOverrides := ← orElse [] (·.texts?) closingOverrides }
    return .trim rule (← needed (·.body?) body)
  | .forEach, [collection, item, opening, separator, closing, body] => do
    let rule : LoopRule := {
      collection := ← needed (·.text?) collection
      item := ← needed (·.text?) item
      opening := ← orElse "" (·.text?) opening
      separator := ← orElse "" (·.text?) separator
      closing := ← orElse "" (·.text?) closing }
    return .forEach rule (← needed (·.body?) body)
  | _, _ => none

namespace Content

/-- Whether a key is the one that the kind of a fragment stands under. -/
def isTag : Content → Bool
  | .text name => name == "type"
  | _ => false

/-- The place of the field that a key names, by its name or by its number; no place for a field
that the kind does not have. Only texts and numbers can be keys. -/
def place? (names : List String) : Content → Option (Option Nat)
  | .text name => some (names.idxOf? name)
  | .natural n => some (if n < names.length then some n else none)
  | _ => none

end Content

/-- The fragment that entries are read as, when the entry of the tag is read by `kindOf`. -/
def fragmentOfEntries (kindOf : Readings → Option FragmentKind)
    (entries : List (Content × Readings)) : Option Fragment := do
  let [tag] := entries.filter (·.1.isTag) | none
  let kind ← kindOf tag.2
  let fields ← (entries.filter (!·.1.isTag)).mapM fun (key, r) =>
    (key.place? kind.fieldNames).map (·, r)
  assemble kind (← fillPlaces kind.fieldNames.length fields)

/-- The fragment that items are read as, when the first of them is read by `kindOf`. -/
def fragmentOfItems (kindOf : Readings → Option FragmentKind) :
    List Readings → Option Fragment
  | [] => none
  | tag :: fields => do
    let kind ← kindOf tag
    assemble kind (← padPlaces kind.fieldNames.length fields)

namespace Content

mutual

/-- What the content can be read as. -/
def readings : Content → Readings
  | .text value => { kind? := FragmentKind.ofName? value, text? := some value }
  | .natural value => { kind? := FragmentKind.all[value]? }
  | .list items =>
    let rs := readingsOfItems items
    { texts? := rs.mapM (·.text?)
      fragment? := fragmentOfItems (·.kind?) rs
      body? := rs.mapM (·.fragment?) }
  | .map entries => { fragment? := fragmentOfEntries (·.kind?) (readingsOfEntries entries) }
  | .null | .flag _ | .number => {}

/-- What each item can be read as. -/
def readingsOfItems : List Content → List Readings
  | [] => []
  | c :: rest => c.readings :: readingsOfItems rest

/-- Each key with what its value can be read as. -/
def readingsOfEntries : List (Content × Content) → List (Content × Readings)
  | [] => []
  | (key, c) :: rest => (key, c.readings) :: readingsOfEntries rest

end

/-- The fragment that a content is read as when it is not part of another one. Its kind has to be
written as a word. -/
def fragment? : Content → Option Fragment
  | .list items => fragmentOfItems (·.text?.bind FragmentKind.ofName?) (readingsOfItems items)
  | .map entries =>
    fragmentOfEntries (·.text?.bind FragmentKind.ofName?) (readingsOfEntries entries)
  | _ => none

end Content

end DerivedQuery.Record
