import DerivedQuery.Query.Operator

/-!
# Tokens of a method name

A method name such as `findByNameOrderByAgeDesc` is a sequence of keywords and property names. A
token keeps the text it was read from and the number of characters before it.

Mirrors `TokenKind` and `Token`.
-/

namespace DerivedQuery.MethodName

open DerivedQuery

/-- What a token stands for. -/
inductive TokenKind
  /-- The leading operation. -/
  | operation (op : Operation)
  /-- A comparator keyword. -/
  | comparator (c : Comparator)
  /-- `By`, in front of the condition. -/
  | by
  /-- `And` between two conditions. -/
  | and
  /-- `Or` between two groups of conditions. -/
  | or
  /-- `OrderBy`, in front of the sort keys. -/
  | orderBy
  /-- `Asc` after a sort key. -/
  | asc
  /-- `Desc` after a sort key. -/
  | desc
  /-- `All` after the operation. -/
  | all
  /-- `Selective` after the operation, in front of a group or after a condition. -/
  | selective
  /-- A run of words that are not keywords. -/
  | property
  /-- `_` between the segments of a property path. -/
  | pathSeparator
  /-- The end of the name. -/
  | eof
deriving DecidableEq, Repr

/-- A lexical unit of a method name. -/
structure Token where
  kind : TokenKind
  text : String
  /-- The number of characters of the name before the token. -/
  position : Nat
deriving DecidableEq, Repr

/-- The token behind the last character of a name. -/
def Token.eof (position : Nat) : Token := ⟨.eof, "", position⟩

end DerivedQuery.MethodName
