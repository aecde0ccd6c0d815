import DerivedQuery.Yaml.Character

/-!
# Places in a YAML text

A `Cursor` is what is left of a text and the place where that starts, since the layout of a YAML
text depends on lines and columns. A carriage return and a line feed together are one line end.
-/

namespace DerivedQuery.Yaml

/-- What is left of a text, and where. -/
structure Cursor where
  rest : List Char
  /-- The number of characters before the cursor. -/
  index : Nat
  /-- The number of line ends before the cursor. -/
  line : Nat
  /-- The number of characters before the cursor in its line. -/
  column : Nat
deriving Repr

namespace Cursor

/-- The start of a text. -/
def start (text : List Char) : Cursor := ⟨text, 0, 0, 0⟩

/-- The character at the cursor. -/
def head? (c : Cursor) : Option Char := c.rest.head?

/-- The character after the one at the cursor. -/
def second? (c : Cursor) : Option Char := c.rest.tail.head?

/-- The place `count` characters further on in the same line. -/
def skip (c : Cursor) (count : Nat := 1) : Cursor :=
  ⟨c.rest.drop count, c.index + count, c.line, c.column + count⟩

/-- The characters from the cursor on that satisfy `p`, none of which ends a line, and the place
after them. -/
def span (p : Char → Bool) (c : Cursor) : List Char × Cursor :=
  let taken := c.rest.takeWhile p
  (taken, c.skip taken.length)

/-- The place after the characters that satisfy `p`, none of which ends a line. -/
def skipWhile (p : Char → Bool) (c : Cursor) : Cursor := (c.span p).2

/-- The line end at the cursor as it counts in a scalar, and the start of the next line. -/
def readBreak (c : Cursor) : List Char × Cursor :=
  match c.rest with
  | '\r' :: '\n' :: rest => (['\n'], ⟨rest, c.index + 2, c.line + 1, 0⟩)
  | b :: rest =>
    (if b == '\u2028' || b == '\u2029' then [b] else ['\n'], ⟨rest, c.index + 1, c.line + 1, 0⟩)
  | [] => ([], c)

/-- Whether a document starts or ends in the line at whose start the cursor is. -/
def atDocumentMark (c : Cursor) : Bool :=
  c.column == 0 &&
    match c.rest with
    | '-' :: '-' :: '-' :: rest | '.' :: '.' :: '.' :: rest => isGapOrEnd rest.head?
    | _ => false

/-- The place after a byte order mark at the start of a line. -/
def skipMark (c : Cursor) : Cursor :=
  if c.column == 0 && c.head? == some '\uFEFF' then c.skip else c

/-- The place after blanks and a comment. -/
def skipComment (c : Cursor) : Cursor :=
  let c := c.skipWhile isBlank
  if c.head? == some '#' then c.skipWhile (!isBreak ·) else c

/-- The place after blanks, a comment and the line end behind them; nothing else may be there. -/
def finishLine? (c : Cursor) : Option Cursor :=
  let c := c.skipComment
  match c.rest with
  | [] => some c
  | b :: _ => if isBreak b then some c.readBreak.2 else none

end Cursor

/-! ## Gaps between words -/

/-- The blanks and line ends between two words of a scalar: the blanks before the first line end,
and the line ends if there are any, the first one apart. -/
structure Gap where
  blanks : List Char
  breaks : Option (List Char × List Char)
deriving Repr

namespace Gap

/-- The gap without blanks and line ends. -/
def none : Gap := ⟨[], Option.none⟩

/-- What a gap stands for: blanks are kept; a single line feed is a space, and of several the first
is dropped. -/
def text (g : Gap) : List Char :=
  match g.breaks with
  | Option.none => g.blanks
  | some (['\n'], []) => [' ']
  | some (['\n'], more) => more
  | some (first, more) => first ++ more

/-- Whether the gap reaches into another line. -/
def hasBreak (g : Gap) : Bool := g.breaks.isSome

/-- The gap with a line end after it. -/
def addBreak (g : Gap) (text : List Char) : Gap :=
  match g.breaks with
  | Option.none => ⟨[], some (text, [])⟩
  | some (first, more) => ⟨[], some (first, more ++ text)⟩

/-- Reads on in a gap. A tab may not stand in front of a column in a new line. The number of steps
bounds the characters that are read. -/
def read (tabLimit : Nat) : Nat → Gap → Cursor → Option (Gap × Cursor)
  | 0, g, c => some (g, c)
  | steps + 1, g, c =>
    match c.head? with
    | Option.none => some (g, c)
    | some ch =>
      if isBlank ch then
        if g.hasBreak then
          if ch == '\t' && c.column < tabLimit then Option.none
          else read tabLimit steps g c.skip
        else read tabLimit steps ⟨g.blanks ++ [ch], Option.none⟩ c.skip
      else if isBreak ch then
        let (text, c) := c.readBreak
        read tabLimit steps (g.addBreak text) c
      else some (g, c)

end Gap

end DerivedQuery.Yaml
