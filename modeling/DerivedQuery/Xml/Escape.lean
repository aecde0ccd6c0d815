/-!
# Escaping for XML

Text escapes the ampersand and the opening angle bracket; an attribute value, which stands between
double quotes, escapes the double quote too.

Mirrors `escape_text`, `escape_attr` and `push_attr`.
-/

namespace DerivedQuery.Xml

/-- A character as it stands in text. -/
def escapeTextChar (c : Char) : List Char :=
  if c = '&' then "&amp;".toList else if c = '<' then "&lt;".toList else [c]

/-- A character as it stands in an attribute value. -/
def escapeAttributeChar (c : Char) : List Char :=
  if c = '"' then "&quot;".toList else escapeTextChar c

/-- The text as it is written between elements. -/
def escapeText (text : String) : String := String.ofList (text.toList.flatMap escapeTextChar)

/-- The text as it is written in an attribute. -/
def escapeAttribute (text : String) : String :=
  String.ofList (text.toList.flatMap escapeAttributeChar)

/-- An attribute with the blank in front of it. -/
def attr (name value : String) : String :=
  " " ++ name ++ "=\"" ++ escapeAttribute value ++ "\""

/-- An attribute, or nothing where the value is empty. -/
def attrIfAny (name value : String) : String :=
  if value.isEmpty then "" else attr name value

/-- An attribute, or nothing where there is no value. -/
def optionalAttr (name : String) : Option String → String
  | none => ""
  | some value => attr name value

end DerivedQuery.Xml
