import DerivedQuery.MethodName.Vocabulary
import DerivedQuery.Naming.Camel

/-!
# Reading a method name token by token

The underscores of a name and the camel words between them are its pieces (`piecesOf`). After the
operation, which is the first word, each token takes as many pieces as it can: an underscore is a
token of its own, the longest keyword that stands at a word is one token, and the words up to the
next underscore or keyword are one property name (`readToken`).

A `Lexer` gives its tokens one at a time; `tokenize` collects all of them. A lexer that cannot
read the operation stays where it is, and a lexer at the end keeps giving the end token.

Mirrors `Lexer` with `read_operation`, `read_property`, `next_token` and `tokenize`; in place of an
index into the words there are the pieces that are left.
-/

namespace DerivedQuery.MethodName

open DerivedQuery Naming

/-- A word of a name or an underscore. -/
inductive Piece
  | word (text : String)
  | underscore
deriving DecidableEq, Repr

/-- The words at the front of the pieces. -/
def leadingWords : List Piece → List String
  | .word text :: rest => text :: leadingWords rest
  | _ => []

/-- The pieces of a name. -/
def piecesOf (name : String) : List Piece :=
  [Piece.underscore].intercalate
    ((name.toList.splitOn '_').map fun part =>
      (camelWords part).map fun word => Piece.word (String.ofList word))

/-- The text of the words up to the next underscore or keyword, and the pieces from there on. -/
def propertyRun : List Piece → String × List Piece
  | [] => ("", [])
  | .underscore :: rest => ("", .underscore :: rest)
  | .word text :: rest =>
    match keyword? text (leadingWords rest) with
    | some _ => ("", .word text :: rest)
    | none =>
      let (more, after) := propertyRun rest
      (text ++ more, after)

theorem length_propertyRun (pieces : List Piece) :
    (propertyRun pieces).2.length ≤ pieces.length := by
  fun_induction propertyRun pieces <;> grind

/-- The token at the front of pieces that start with `piece`, and the pieces after it. -/
def readToken (position : Nat) (piece : Piece) (rest : List Piece) : Token × List Piece :=
  match piece with
  | .underscore => (⟨.pathSeparator, "_", position⟩, rest)
  | .word text =>
    match keyword? text (leadingWords rest) with
    | some k => (⟨k.kind, k.text, position⟩, rest.drop k.others.length)
    | none =>
      let (more, after) := propertyRun rest
      (⟨.property, text ++ more, position⟩, after)

theorem length_readToken (position : Nat) (piece : Piece) (rest : List Piece) :
    (readToken position piece rest).2.length ≤ rest.length := by
  unfold readToken
  split
  · exact Nat.le_refl _
  · split
    · simp
    · exact length_propertyRun rest

/-- The tokens of the pieces, without the end token. -/
def readTokens (position : Nat) : List Piece → List Token
  | [] => []
  | piece :: rest =>
    let next := readToken position piece rest
    next.1 :: readTokens (position + next.1.text.length) next.2
termination_by pieces => pieces.length
decreasing_by exact Nat.lt_succ_of_le (length_readToken position piece rest)

/-- Why a name has no tokens. -/
inductive LexError
  | empty
  | missingOperation (name : String)
deriving DecidableEq, Repr

/-- The message of a lexical error. -/
def LexError.message : LexError → String
  | .empty => "empty method name"
  | .missingOperation name =>
    let operations := ", ".intercalate (Operation.all.map (·.keyword))
    s!"`{name}` does not start with an operation keyword ({operations})"

/-- The operation a name starts with and the pieces after it. -/
def readOperation (name : String) : Except LexError (Token × List Piece) :=
  match piecesOf name with
  | [] => .error .empty
  | .underscore :: _ => .error (.missingOperation name)
  | .word text :: rest =>
    match Operation.ofKeyword? text with
    | some op => .ok (⟨.operation op, text, 0⟩, rest)
    | none => .error (.missingOperation name)

/-- Every token of a name up to and including the end token. -/
def tokenize (name : String) : Except LexError (List Token) := do
  let (operation, rest) ← readOperation name
  return operation :: readTokens operation.text.length rest ++ [Token.eof name.length]

/-- A place in a name from which tokens are read. -/
structure Lexer where
  name : String
  /-- The pieces not read yet, once the operation has been read. -/
  ahead : Option (List Piece)
  /-- The number of characters read. -/
  position : Nat
deriving DecidableEq, Repr

namespace Lexer

/-- The start of a name. -/
def start (name : String) : Lexer := ⟨name, none, 0⟩

/-- The next token and the place after it. -/
def next (lexer : Lexer) : Except LexError (Token × Lexer) :=
  match lexer.ahead with
  | none => do
    let (operation, rest) ← readOperation lexer.name
    return (operation, ⟨lexer.name, some rest, operation.text.length⟩)
  | some [] => .ok (Token.eof lexer.name.length, lexer)
  | some (piece :: rest) =>
    let (token, after) := readToken lexer.position piece rest
    .ok (token, ⟨lexer.name, some after, lexer.position + token.text.length⟩)

/-- The answers of `count` successive calls of `next`; after an error the place stays. -/
def pull : Nat → Lexer → List (Except LexError Token)
  | 0, _ => []
  | count + 1, lexer =>
    match lexer.next with
    | .ok (token, after) => .ok token :: pull count after
    | .error e => .error e :: pull count lexer

end Lexer

end DerivedQuery.MethodName
