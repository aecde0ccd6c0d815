import DerivedQuery.MethodName.Lexer
import DerivedQuery.MethodName.Phrase

/-!
# Parsing a method name

The parser reads the tokens of a name from left to right with one procedure for each part of a
`Phrase`. It stops at the first token that cannot continue what came before, and the `Stop` keeps
the place and what was missing there; `Stop.error` says how that is reported.

A `Cursor` is the place in the tokens. `Cursor.parse` gives the query and the place after it, so
the same cursor can be parsed from again. Each procedure leaves a cursor with fewer tokens ahead,
which is why the loops end.

Mirrors `Parser` with `advance`, `check`, `accept`, `parse_or`, `parse_and`, `parse_condition`,
`parse_property_path`, `parse_order_by`, `parse_order_clause` and `parse`, and `ParseError`; the
loops of the two lists of conditions are one recursion each.
-/

namespace DerivedQuery.MethodName

open DerivedQuery

/-- Why a method name is not a phrase. -/
inductive ParseError
  /-- The name has no tokens. -/
  | lex (cause : LexError)
  /-- A keyword that introduces a property is the last token. -/
  | danglingOperator (token : String) (position : Nat)
  /-- A property was required where another token stands. -/
  | emptyPropertyPath (token : String) (position : Nat)
  /-- Something follows a complete phrase. -/
  | trailingTokens (token : String) (position : Nat)
  /-- An operation was required where another token stands. -/
  | unexpectedToken (token : String) (position : Nat)
deriving DecidableEq, Repr

namespace ParseError

/-- The offset of the token that is reported, if there is one. -/
def position? : ParseError → Option Nat
  | lex _ => none
  | danglingOperator _ position | emptyPropertyPath _ position | trailingTokens _ position
  | unexpectedToken _ position => some position

/-- The message of a parse error. -/
def message : ParseError → String
  | lex cause => "not derivable: " ++ cause.message
  | danglingOperator token position =>
    s!"`{token}` at position {position} is not followed by a condition"
  | emptyPropertyPath token position =>
    s!"expected a property name at position {position}, found `{token}`"
  | trailingTokens token position => s!"unexpected trailing `{token}` at position {position}"
  | unexpectedToken token position => s!"unexpected `{token}` at position {position}"

end ParseError

/-- A place in the tokens of a name. -/
structure Cursor where
  /-- The token read last. -/
  previous : Option Token
  /-- The tokens not read yet, without the end token. -/
  ahead : List Token
  /-- The length of the name. -/
  finish : Nat
deriving DecidableEq, Repr

namespace Cursor

/-- The token at the cursor: the end token when nothing is ahead. -/
def current (c : Cursor) : Token := c.ahead.head?.getD (Token.eof c.finish)

/-- The place after the current token, if that is one of the kind. -/
def accept (kind : TokenKind) (c : Cursor) : Option Cursor :=
  match c.ahead with
  | [] => none
  | t :: rest => if t.kind = kind then some ⟨some t, rest, c.finish⟩ else none

theorem length_accept {kind : TokenKind} {c c' : Cursor} (h : c.accept kind = some c') :
    c'.ahead.length < c.ahead.length := by
  unfold accept at h
  split at h
  · simp at h
  · next t rest hc =>
    split at h
    · cases h
      simp [hc]
    · simp at h

/-- Whether the current token is of the kind, and the place after it if it is. -/
def skip (kind : TokenKind) (c : Cursor) : Bool × Cursor :=
  match c.accept kind with
  | some next => (true, next)
  | none => (false, c)

theorem length_skip (kind : TokenKind) (c : Cursor) :
    (c.skip kind).2.ahead.length ≤ c.ahead.length := by
  unfold skip
  split
  · next h => exact Nat.le_of_lt (length_accept h)
  · exact Nat.le_refl _

end Cursor

/-- What was required at the place where the parser stopped. -/
inductive Expectation
  | operation
  | property
  | ending
deriving DecidableEq, Repr

/-- The place where the parser stopped. -/
structure Stop where
  expected : Expectation
  place : Cursor
deriving DecidableEq, Repr

namespace Stop

/-- Whether a token requires a property after it. -/
def introducesProperty (kind : TokenKind) : Bool :=
  kind = .by || kind = .and || kind = .or || kind = .orderBy

/-- How a stop is reported: a keyword at the very end that misses its property is reported itself,
any other stop by the token that stands there. -/
def error (stop : Stop) : ParseError :=
  let found := stop.place.current
  match stop.expected with
  | .operation => .unexpectedToken found.text found.position
  | .ending => .trailingTokens found.text found.position
  | .property =>
    match found.kind, stop.place.previous with
    | .eof, some before =>
      if introducesProperty before.kind then .danglingOperator before.text before.position
      else .emptyPropertyPath found.text found.position
    | _, _ => .emptyPropertyPath found.text found.position

end Stop

namespace Cursor

/-- Reads the segments of a property path. -/
def segments (c : Cursor) : Except Stop (List String × Cursor) :=
  match _h : c.accept .property with
  | none => .error ⟨.property, c⟩
  | some afterName =>
    match _h' : afterName.accept .pathSeparator with
    | none => .ok ([c.current.text], afterName)
    | some afterBar => do
      let (rest, next) ← segments afterBar
      return (c.current.text :: rest, next)
termination_by c.ahead.length
decreasing_by exact Nat.lt_trans (length_accept _h') (length_accept _h)

theorem length_segments {c c' : Cursor} {names : List String} (h : c.segments = .ok (names, c')) :
    c'.ahead.length < c.ahead.length := by
  fun_induction segments c generalizing names c' with
  | case1 => simp at h
  | case2 c next hp =>
    cases h
    exact length_accept hp
  | case3 c next hp bar hb ih =>
    simp only [bind, Except.bind, pure, Except.pure] at h
    split at h
    · simp at h
    · next r hr =>
      cases h
      exact Nat.lt_trans (ih hr) (Nat.lt_trans (length_accept hb) (length_accept hp))

/-- Reads a comparator, which is equality where none is spelled. -/
def comparator (c : Cursor) : Comparator × Cursor :=
  match c.ahead with
  | ⟨.comparator op, text, position⟩ :: rest =>
    (op, ⟨some ⟨.comparator op, text, position⟩, rest, c.finish⟩)
  | _ => (.equal, c)

theorem length_comparator (c : Cursor) : c.comparator.2.ahead.length ≤ c.ahead.length := by
  unfold comparator
  split
  · next h => simp [h]
  · exact Nat.le_refl _

/-- Reads a term. -/
def term (c : Cursor) : Except Stop (Term × Cursor) := do
  let (names, afterPath) ← c.segments
  let (op, afterComparator) := afterPath.comparator
  let (selective, next) := afterComparator.skip .selective
  return (⟨names, op, selective⟩, next)

theorem length_term {c c' : Cursor} {t : Term} (h : c.term = .ok (t, c')) :
    c'.ahead.length < c.ahead.length := by
  simp only [term, bind, Except.bind, pure, Except.pure] at h
  split at h
  · simp at h
  · next r hr =>
    cases h
    exact Nat.lt_of_le_of_lt
      (Nat.le_trans (length_skip _ _) (length_comparator _)) (length_segments hr)

/-- Reads terms with `And` between them. -/
def terms (c : Cursor) : Except Stop ((Term × List Term) × Cursor) :=
  match _h : c.term with
  | .error stop => .error stop
  | .ok (first, afterFirst) =>
    match _h' : afterFirst.accept .and with
    | none => .ok ((first, []), afterFirst)
    | some afterAnd => do
      let ((second, others), next) ← terms afterAnd
      return ((first, second :: others), next)
termination_by c.ahead.length
decreasing_by exact Nat.lt_trans (length_accept _h') (length_term _h)

theorem length_terms {c c' : Cursor} {ts : Term × List Term} (h : c.terms = .ok (ts, c')) :
    c'.ahead.length < c.ahead.length := by
  fun_induction terms c generalizing ts c' with
  | case1 => simp at h
  | case2 c first next ht =>
    cases h
    exact length_term ht
  | case3 c first next ht hand ha ih =>
    simp only [bind, Except.bind, pure, Except.pure] at h
    split at h
    · simp at h
    · next r hr =>
      cases h
      exact Nat.lt_trans (ih hr) (Nat.lt_trans (length_accept ha) (length_term ht))

/-- Reads a group of terms. -/
def group (c : Cursor) : Except Stop (TermGroup × Cursor) := do
  let (selective, afterMark) := c.skip .selective
  let ((first, others), next) ← afterMark.terms
  return (⟨selective, first, others⟩, next)

theorem length_group {c c' : Cursor} {g : TermGroup} (h : c.group = .ok (g, c')) :
    c'.ahead.length < c.ahead.length := by
  simp only [group, bind, Except.bind, pure, Except.pure] at h
  split at h
  · simp at h
  · next r hr =>
    cases h
    exact Nat.lt_of_lt_of_le (length_terms hr) (length_skip _ _)

/-- Reads groups with `Or` between them. -/
def groups (c : Cursor) : Except Stop (List TermGroup × Cursor) :=
  match _h : c.group with
  | .error stop => .error stop
  | .ok (first, afterFirst) =>
    match _h' : afterFirst.accept .or with
    | none => .ok ([first], afterFirst)
    | some afterOr => do
      let (others, next) ← groups afterOr
      return (first :: others, next)
termination_by c.ahead.length
decreasing_by exact Nat.lt_trans (length_accept _h') (length_group _h)

/-- Reads a direction, which is ascending where none is spelled. -/
def direction (c : Cursor) : Direction × Cursor :=
  match c.accept .desc with
  | some next => (.descending, next)
  | none => (.ascending, (c.skip .asc).2)

theorem length_direction (c : Cursor) : c.direction.2.ahead.length ≤ c.ahead.length := by
  unfold direction
  split
  · next h => exact Nat.le_of_lt (length_accept h)
  · exact length_skip _ _

/-- Reads a sort key. -/
def sortPhrase (c : Cursor) : Except Stop (SortPhrase × Cursor) := do
  let (names, afterPath) ← c.segments
  let (direction, next) := afterPath.direction
  return (⟨names, direction⟩, next)

theorem length_sortPhrase {c c' : Cursor} {s : SortPhrase} (h : c.sortPhrase = .ok (s, c')) :
    c'.ahead.length < c.ahead.length := by
  simp only [sortPhrase, bind, Except.bind, pure, Except.pure] at h
  split at h
  · simp at h
  · next r hr =>
    cases h
    exact Nat.lt_of_le_of_lt (length_direction _) (length_segments hr)

/-- Reads sort keys for as long as a property follows. -/
def sortPhrases (c : Cursor) : Except Stop (List SortPhrase × Cursor) :=
  match _h : c.sortPhrase with
  | .error stop => .error stop
  | .ok (first, next) =>
    if next.current.kind = .property then do
      let (others, last) ← sortPhrases next
      return (first :: others, last)
    else .ok ([first], next)
termination_by c.ahead.length
decreasing_by exact length_sortPhrase _h

/-- Reads what a keyword introduces, if the keyword is there. -/
def clause {α : Type} (kind : TokenKind) (read : Cursor → Except Stop (List α × Cursor))
    (c : Cursor) : Except Stop (List α × Cursor) :=
  match c.accept kind with
  | some next => read next
  | none => .ok ([], c)

/-- Reads an operation. -/
def operation (c : Cursor) : Except Stop (Operation × Cursor) :=
  match c.ahead with
  | ⟨.operation op, text, position⟩ :: rest =>
    .ok (op, ⟨some ⟨.operation op, text, position⟩, rest, c.finish⟩)
  | _ => .error ⟨.operation, c⟩

/-- Reads a complete phrase. -/
def phrase (c : Cursor) : Except Stop (Phrase × Cursor) := do
  let (op, afterOperation) ← c.operation
  let (all, afterAll) := afterOperation.skip .all
  let (selective, afterSelective) := afterAll.skip .selective
  let (groups, afterGroups) ← afterSelective.clause .by groups
  let (order, last) ← afterGroups.clause .orderBy sortPhrases
  if last.current.kind = .eof then return (⟨op, all, selective, groups, order⟩, last)
  else throw ⟨.ending, last⟩

/-- Parses from the cursor on: the answer, and the place where the parser stopped. -/
def parse (c : Cursor) : Except ParseError Query × Cursor :=
  match c.phrase with
  | .ok (p, last) => (.ok p.toQuery, last)
  | .error stop => (.error stop.error, stop.place)

/-- The answers of `count` successive calls of `parse`, each from where the last one stopped. -/
def parseTimes : Nat → Cursor → List (Except ParseError Query)
  | 0, _ => []
  | count + 1, c => c.parse.1 :: parseTimes count c.parse.2

/-- The start of a name, if it has tokens. -/
def start (name : String) : Except ParseError Cursor :=
  match readOperation name with
  | .ok (operation, rest) =>
    .ok ⟨none, operation :: readTokens operation.text.length rest, name.length⟩
  | .error e => .error (.lex e)

end Cursor

/-- The query a method name stands for. -/
def parse (name : String) : Except ParseError Query := do
  let c ← Cursor.start name
  c.parse.1

end DerivedQuery.MethodName
