import DerivedQuery.Naming.Camel
import DerivedQuery.Unicode.Casing

/-!
# Naming styles

How a property name becomes a column name. The underscore styles drop the underscores of the name,
cut the parts between them into camel words, convert each word and join the words by `_`; the camel
styles only touch the first character.

A converter is any function on names; the built-in ones are `Style.convert`.

Mirrors `NamingStyle` with its `convert` and `words`.
-/

namespace DerivedQuery.Naming

open DerivedQuery.Unicode

/-- A conversion of names. -/
abbrev Converter := String → String

/-- The built-in naming styles. -/
inductive Style
  /-- `userName` becomes `user_name`. -/
  | lowerUnderScore
  /-- `userName` becomes `USER_NAME`. -/
  | upperUnderScore
  /-- `UserName` becomes `userName`. -/
  | lowerCamel
  /-- `userName` becomes `UserName`. -/
  | upperCamel
  /-- Names stay as they are. -/
  | identity
deriving DecidableEq, Repr

/-- The words of a name: the camel words of its parts between underscores. -/
def wordsOf (name : String) : List (List Char) :=
  (name.toList.splitOn '_').flatMap camelWords

/-- The words of a name, each converted, with underscores between them. -/
def underscored (convertWord : String → String) (name : String) : String :=
  "_".intercalate ((wordsOf name).map fun word => convertWord (String.ofList word))

/-- The column name of a property name. -/
def Style.convert : Style → Converter
  | .lowerUnderScore => underscored lowerText
  | .upperUnderScore => underscored upperText
  | .lowerCamel => mapFirst lowercase
  | .upperCamel => mapFirst uppercase
  | .identity => id

/-- Every style with the word that names it in a manifest. -/
def Style.names : List (String × Style) :=
  [("lower_under_score", .lowerUnderScore), ("upper_under_score", .upperUnderScore),
   ("lower_camel", .lowerCamel), ("upper_camel", .upperCamel), ("identity", .identity)]

/-- The word that names a style in a manifest. -/
def Style.name : Style → String
  | .lowerUnderScore => "lower_under_score"
  | .upperUnderScore => "upper_under_score"
  | .lowerCamel => "lower_camel"
  | .upperCamel => "upper_camel"
  | .identity => "identity"

/-- Column names are in lower case with underscores unless a manifest chooses otherwise. -/
instance : Inhabited Style := ⟨.lowerUnderScore⟩

end DerivedQuery.Naming
