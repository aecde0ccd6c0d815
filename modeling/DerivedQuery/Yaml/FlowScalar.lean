import DerivedQuery.Yaml.Cursor
import DerivedQuery.Yaml.Scalar

/-!
# Quoted and plain scalars

Scalars that may run over several lines, with a gap between lines folded to a space or to the line
ends after the first. A quoted scalar ends at its quote; a plain one ends where the layout of the
text takes over.
-/

namespace DerivedQuery.Yaml

/-! ## Quoted scalars -/

/-- The character with a hexadecimal code; codes of surrogates and codes past the last plane are
none. -/
def charOfHex? (digits : List Char) : Option Char := do
  let code ← digits? 16 digits
  if code.isValidChar then some (Char.ofNat code) else none

/-- The characters that a letter after a backslash stands for. -/
def escapes : List (Char × Char) := [
  ('0', '\x00'), ('a', '\x07'), ('b', '\x08'), ('t', '\t'), ('\t', '\t'), ('n', '\n'),
  ('v', '\x0B'), ('f', '\x0C'), ('r', '\r'), ('e', '\x1B'), (' ', ' '), ('"', '"'),
  ('/', '/'), ('\\', '\\'), ('N', '\u0085'), ('_', '\u00A0'), ('L', '\u2028'), ('P', '\u2029')]

/-- The letters after a backslash that announce a code, with the number of its digits. -/
def codeLengths : List (Char × Nat) := [('x', 2), ('u', 4), ('U', 8)]

/-- Reads what follows a backslash: the character it stands for and the place after it. -/
def readEscape? (c : Cursor) : Option (Char × Cursor) := do
  let letter ← c.head?
  match escapes.lookup letter with
  | some ch => return (ch, c.skip)
  | none =>
    let length ← codeLengths.lookup letter
    let digits := c.skip.rest.take length
    if digits.length < length then none
    else return (← charOfHex? digits, c.skip (length + 1))

/-- The quote around a scalar. -/
inductive Quote
  | single
  | double
deriving DecidableEq, Repr

/-- The quote as a character. -/
def Quote.char : Quote → Char
  | .single => '\x27'
  | .double => '"'

/-- Reads up to a gap or the closing quote: the characters read, whether an escaped line end is the
last of them, and the place after them. -/
def readQuotedRun? (quote : Quote) : Nat → Cursor → Option (List Char × Bool × Cursor)
  | 0, c => some ([], false, c)
  | steps + 1, c =>
    match c.head? with
    | none => some ([], false, c)
    | some ch =>
      if isGap ch then some ([], false, c)
      else if ch == quote.char then
        if quote = .single && c.second? == some ch then do
          let (run, escaped, after) ← readQuotedRun? quote steps (c.skip 2)
          return (ch :: run, escaped, after)
        else some ([], false, c)
      else if quote = .double && ch == '\\' then
        if c.second?.any isBreak then some ([], true, c.skip.readBreak.2)
        else do
          let (escape, c) ← readEscape? c.skip
          let (run, escaped, after) ← readQuotedRun? quote steps c
          return (escape :: run, escaped, after)
      else do
        let (run, escaped, after) ← readQuotedRun? quote steps c.skip
        return (ch :: run, escaped, after)

/-- Reads the rest of a quoted scalar and the quote that closes it. -/
def readQuoted? (quote : Quote) : Nat → Cursor → Option (List Char × Cursor)
  | 0, _ => none
  | steps + 1, c =>
    if c.atDocumentMark || c.rest.isEmpty then none
    else do
      let (run, escaped, c) ← readQuotedRun? quote c.rest.length c
      if c.head? == some quote.char then return (run, c.skip)
      else
        let start : Gap := if escaped then ⟨[], some ([], [])⟩ else .none
        let (gap, c) ← Gap.read 0 c.rest.length start c
        let (more, after) ← readQuoted? quote steps c
        return (run ++ gap.text ++ more, after)

/-! ## Plain scalars -/

/-- Reads up to a gap or to what ends a plain scalar. Within brackets and braces a colon may not
stand in front of what is special there. -/
def readPlainRun? (inFlow : Bool) : Nat → Cursor → Option (List Char × Cursor)
  | 0, c => some ([], c)
  | steps + 1, c =>
    match c.head? with
    | none => some ([], c)
    | some ch =>
      if isGap ch then some ([], c)
      else if inFlow && ch == ':' && c.second?.any (fun d => isFlowIndicator d || d == '?') then
        none
      else if (ch == ':' && isGapOrEnd c.second?) || (inFlow && isFlowIndicator ch) then
        some ([], c)
      else do
        let (run, after) ← readPlainRun? inFlow steps c.skip
        return (ch :: run, after)

/-- Reads the rest of a plain scalar after a gap: its characters, whether the gap behind it reaches
into another line, and the place after that gap. Outside of brackets and braces the scalar ends at
a line with less indentation. -/
def readPlain? (inFlow : Bool) (indent : Nat) : Nat → Gap → Cursor →
    Option (List Char × Bool × Cursor)
  | 0, gap, c => some ([], gap.hasBreak, c)
  | steps + 1, gap, c =>
    if c.atDocumentMark || c.head? == some '#' then some ([], gap.hasBreak, c)
    else do
      let (run, c) ← readPlainRun? inFlow c.rest.length c
      if run.isEmpty then return ([], gap.hasBreak, c)
      else if !c.head?.any isGap then return (gap.text ++ run, false, c)
      else
        let (next, c) ← Gap.read indent c.rest.length .none c
        if !inFlow && c.column < indent then return (gap.text ++ run, next.hasBreak, c)
        else
          let (more, broken, after) ← readPlain? inFlow indent steps next c
          return (gap.text ++ run ++ more, broken, after)

end DerivedQuery.Yaml
