import DerivedQuery.Record.Source
import DerivedQuery.Record.Tree

/-!
# Text layers

A record is written as a tree and read from the values of a notation. Between the two there is a
text, and a `TextLayer` is what a notation does with it: how a tree becomes a text, and what a text
is taken as.
-/

namespace DerivedQuery.Record

/-- How trees are written as texts and texts are taken as values. -/
structure TextLayer where
  /-- What a text is taken as. -/
  Value : Type
  /-- The text of a tree, on one line or over several. -/
  print : Bool → Tree → String
  /-- The value a text holds, if it is one of the notation. -/
  read? : String → Option Value
  /-- How such values are taken. -/
  source : Source Option Value

end DerivedQuery.Record
