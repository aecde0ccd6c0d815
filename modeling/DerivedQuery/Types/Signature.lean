import DerivedQuery.Types.TypeRef
import DerivedQuery.Unicode.Alphanumeric
import DerivedQuery.Unicode.Blank

/-!
# Reading types

The written form of a type, with blanks allowed between its symbols:

    Type := ? | ? extends Type | Name (< Type (, Type)* >)? ([ ])*

A name is a run of letters, numbers, `_`, `$` and `.`; a primitive name and `void` take no
arguments. A wildcard is its bound.

The readers work on what is left of the text. A reader that fails gives back the text from the
place of the failure on, so the place and the character there can be reported
(`SignatureError.before`).

Mirrors `SignatureParser` with `skip_whitespace`, `unexpected`, `expect`, `read_name`, `parse_type`
and `parse`, and `SignatureError`.
-/

namespace DerivedQuery.Types

open DerivedQuery.Unicode

/-- The names of the primitive types. -/
def primitiveNames : List String :=
  ["boolean", "byte", "short", "int", "long", "char", "float", "double"]

/-- The type that an unbounded wildcard stands for. -/
def objectName : String := "java.lang.Object"

/-- Why a text is not a type. -/
inductive SignatureError
  | empty
  | unexpected (found : Char) (position : Nat) (signature : String)
  | unexpectedEnd (signature : String)
deriving DecidableEq, Repr

namespace SignatureError

/-- The message of a signature error. -/
def message : SignatureError → String
  | empty => "empty type signature"
  | unexpected found position signature =>
    let found := String.singleton found
    s!"unexpected `{found}` at position {position} in `{signature}`"
  | unexpectedEnd signature => s!"unexpected end of `{signature}`"

/-- The error for a failure in front of the rest of a signature. -/
def before (signature : String) : List Char → SignatureError
  | [] => .unexpectedEnd signature
  | found :: rest => .unexpected found (signature.length - (rest.length + 1)) signature

end SignatureError

namespace TypeRef

/-- The text from the first character on that is not blank. -/
def skipBlanks (text : List Char) : List Char := text.dropWhile isBlank

/-- Whether a character can be part of a name. -/
def isNameChar (c : Char) : Bool := isAlphanumeric c || c == '_' || c == '$' || c == '.'

/-- The name at the front of the text, which may be empty, and what follows it. -/
def readName (text : List Char) : String × List Char :=
  (String.ofList (text.takeWhile isNameChar), text.dropWhile isNameChar)

/-- Reads a symbol after blanks. -/
def readSymbol (symbol : Char) (text : List Char) : Except (List Char) (List Char) :=
  match skipBlanks text with
  | [] => .error []
  | c :: rest => if c = symbol then .ok rest else .error (c :: rest)

/-- Reads pairs of brackets, each of which makes the type before it an array. -/
def readBrackets : Nat → TypeRef → List Char → Except (List Char) (TypeRef × List Char)
  | 0, type, text => .ok (type, text)
  | steps + 1, type, text =>
    match skipBlanks text with
    | '[' :: rest => do
      let rest ← readSymbol ']' rest
      readBrackets steps (.array type) rest
    | rest => .ok (type, rest)

mutual

/-- Reads a type. The number of steps bounds the nesting, for which the number of characters is
always enough. -/
def readType : Nat → List Char → Except (List Char) (TypeRef × List Char)
  | 0, text => .error text
  | steps + 1, text =>
    match skipBlanks text with
    | '?' :: afterMark =>
      let (bound, rest) := readName (skipBlanks afterMark)
      if bound = "" then .ok (.simple objectName, rest)
      else if bound = "extends" then readType steps rest
      else .error rest
    | text => do
      let (name, rest) := readName text
      if name = "" then throw rest
      else if name = "void" then readBrackets steps .void rest
      else if primitiveNames.contains name then readBrackets steps (.primitive name) rest
      else
        let (args, rest) ← readArguments steps rest
        readBrackets steps (.declared name args) rest

/-- Reads the arguments of a declared type, if there are any. -/
def readArguments : Nat → List Char → Except (List Char) (List TypeRef × List Char)
  | 0, text => .error text
  | steps + 1, text =>
    match skipBlanks text with
    | '<' :: rest => do
      let (first, rest) ← readType steps rest
      let (others, rest) ← readMoreArguments steps rest
      return (first :: others, rest)
    | rest => .ok ([], rest)

/-- Reads the arguments after the first one and the bracket that ends them. -/
def readMoreArguments : Nat → List Char → Except (List Char) (List TypeRef × List Char)
  | 0, text => .error text
  | steps + 1, text =>
    match skipBlanks text with
    | ',' :: rest => do
      let (next, rest) ← readType steps rest
      let (others, rest) ← readMoreArguments steps rest
      return (next :: others, rest)
    | rest => do
      let rest ← readSymbol '>' rest
      return ([], rest)

end

/-- The type that a text is the written form of. -/
def parse (signature : String) : Except SignatureError TypeRef :=
  match skipBlanks signature.toList with
  | [] => .error .empty
  | text =>
    match readType (text.length + 1) text with
    | .error rest => .error (.before signature rest)
    | .ok (type, rest) =>
      match skipBlanks rest with
      | [] => .ok type
      | rest => .error (.before signature rest)

end TypeRef

end DerivedQuery.Types
