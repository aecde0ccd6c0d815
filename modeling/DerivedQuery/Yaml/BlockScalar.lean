import DerivedQuery.Yaml.Cursor

/-!
# Block scalars

A literal scalar keeps its line ends; a folded one turns a single line end between two lines that
start without a blank into a space. The header may give the indentation, which otherwise is that of
the first line, and say what becomes of the line ends behind the last line.
-/

namespace DerivedQuery.Yaml

/-- What becomes of the line ends behind the last line of a block scalar. -/
inductive Chomping
  /-- All are dropped. -/
  | strip
  /-- The first is kept. -/
  | clip
  /-- All are kept. -/
  | keep
deriving DecidableEq, Repr

/-- The chomping that a sign stands for. -/
def chomping? : Char → Option Chomping
  | '+' => some .keep
  | '-' => some .strip
  | _ => none

/-- Reads the header of a block scalar, in which a sign and a digit may stand in any order: the
chomping and the indentation, if they are given. -/
def readHeader? (c : Cursor) : Option (Chomping × Option Nat × Cursor) :=
  let digit (c : Cursor) : Option (Option Nat × Cursor) :=
    match c.head? with
    | some d =>
      if d == '0' then none
      else if d.isDigit then some (some (d.toNat - 0x30), c.skip)
      else some (none, c)
    | none => some (none, c)
  match c.head?.bind chomping? with
  | some chomping => do
    let (indent, c) ← digit c.skip
    return (chomping, indent, c)
  | none => do
    let (indent, c) ← digit c
    match indent, c.head?.bind chomping? with
    | some _, some chomping => return (chomping, indent, c.skip)
    | _, _ => return (.clip, indent, c)

/-- Reads empty lines and the indentation of the line after them: the line ends, the greatest
column reached, and the place. Blanks count as indentation up to the given column, or all of them
if none is given; a tab may not stand among them. -/
def readEmptyLines? (indent : Option Nat) : Nat → Nat → Cursor →
    Option (List Char × Nat × Cursor)
  | 0, widest, c => some ([], widest, c)
  | steps + 1, widest, c =>
    let blanks := (c.rest.takeWhile (· == ' ')).length
    let c := c.skip (match indent with
      | none => blanks
      | some n => min blanks (n - c.column))
    let widest := max widest c.column
    let within := indent.all (c.column < ·)
    match c.head? with
    | some ch =>
      if within && ch == '\t' then none
      else if isBreak ch then do
        let (text, c) := c.readBreak
        let (more, widest, c) ← readEmptyLines? indent steps widest c
        return (text ++ more, widest, c)
      else some ([], widest, c)
    | none => some ([], widest, c)

/-- Reads the lines of a block scalar that start at a column. `before` is the line end of the line
before, `empty` the line ends of the empty lines between, and `blankBefore` tells whether the line
before starts with a blank. -/
def readLines? (literal : Bool) (chomping : Chomping) (indent : Nat) :
    Nat → List Char → List Char → Bool → Cursor → Option (List Char × Cursor)
  | 0, _, _, _, c => some ([], c)
  | steps + 1, before, empty, blankBefore, c =>
    match c.head? with
    | some ch =>
      if c.column == indent then do
        let blank := isBlank ch
        let lead :=
          if !literal && before == ['\n'] && !blankBefore && !blank then
            if empty.isEmpty then [' '] else empty
          else before ++ empty
        let (line, c) := c.span (!isBreak ·)
        let (lineEnd, c) := c.readBreak
        let (nextEmpty, _, c) ← readEmptyLines? (some indent) (c.rest.length + 1) 0 c
        let (more, after) ← readLines? literal chomping indent steps lineEnd nextEmpty blank c
        return (lead ++ line ++ more, after)
      else some (finish before empty, c)
    | none => some (finish before empty, c)
where
  /-- The line ends that are kept behind the last line. -/
  finish (before empty : List Char) : List Char :=
    match chomping with
    | .strip => []
    | .clip => before
    | .keep => before ++ empty

/-- Reads a block scalar after its indicator, inside a block at a column (or none at the top). -/
def readBlockScalar? (literal : Bool) (outer : Option Nat) (c : Cursor) :
    Option (List Char × Cursor) := do
  let (chomping, given, c) ← readHeader? c
  let c ← c.finishLine?
  let least := outer.elim 1 (· + 1)
  match given with
  | some n =>
    let indent := outer.elim n (· + n)
    let (empty, _, c) ← readEmptyLines? (some indent) (c.rest.length + 1) 0 c
    readLines? literal chomping indent (c.rest.length + 1) [] empty false c
  | none =>
    let (empty, widest, c) ← readEmptyLines? none (c.rest.length + 1) 0 c
    readLines? literal chomping (max widest least) (c.rest.length + 1) [] empty false c

end DerivedQuery.Yaml
