import DerivedQuery.Yaml.BlockScalar
import DerivedQuery.Yaml.FlowScalar
import DerivedQuery.Yaml.Token

/-!
# From a text to its tokens

The layout of a text decides where its blocks start and end. A block mapping is known by the colon
behind its first key, so a key without a mark of its own is recognised only behind it: every place
where such a key may start is kept until its line ends, and the tokens for the key are put in front
of that place when a colon follows.
-/

namespace DerivedQuery.Yaml

/-- A place where a key without a mark may start. -/
structure KeyPlace where
  /-- Whether nothing but a key may stand there. -/
  required : Bool
  /-- The number of tokens in front of the place. -/
  tokens : Nat
  index : Nat
  line : Nat
  column : Nat
deriving Repr

/-- What is known of a text up to a place in it. -/
structure Layout where
  cursor : Cursor
  /-- The tokens so far, the latest first. -/
  tokens : List Token := []
  /-- The columns of the blocks around the place, the innermost first. -/
  blocks : List Nat := []
  /-- Whether a key without a mark may start at the place. -/
  keyAllowed : Bool := true
  /-- Where the latest such key may have started. -/
  keyPlace : Option KeyPlace := none
  /-- The same for what is around each of the open brackets and braces. -/
  outerKeyPlaces : List (Option KeyPlace) := []
deriving Repr

namespace Layout

/-- Whether the place is within brackets or braces, where indentation has no meaning. -/
def inFlow (s : Layout) : Bool := !s.outerKeyPlaces.isEmpty

/-- Adds a token, and goes on at a place. -/
def emit (s : Layout) (t : Token) (c : Cursor) : Layout :=
  { s with tokens := t :: s.tokens, cursor := c }

/-! ## Keys without marks -/

/-- Whether a key that starts at a place can no longer be one, as it is on an earlier line or too
far back. -/
def isStale (s : Layout) (place : KeyPlace) : Bool :=
  place.line < s.cursor.line || place.index + 1024 < s.cursor.index

/-- The place, unless it is stale, which a required one may not be. -/
def fresh? (s : Layout) : Option KeyPlace → Option (Option KeyPlace)
  | none => some none
  | some place =>
    if !s.isStale place then some (some place) else if place.required then none else some none

/-- Gives up the keys that are stale. -/
def dropStaleKeys? (s : Layout) : Option Layout := do
  return { s with
    keyPlace := ← s.fresh? s.keyPlace
    outerKeyPlaces := ← s.outerKeyPlaces.mapM s.fresh? }

/-- Gives up the latest key, which may not be required. -/
def dropKey? (s : Layout) : Option Layout :=
  if s.keyPlace.any (·.required) then none else some { s with keyPlace := none }

/-- Keeps the place as the start of a key, if one is allowed there. -/
def saveKey? (s : Layout) : Option Layout :=
  if s.keyAllowed then do
    let c := s.cursor
    let required := !s.inFlow && s.blocks.head? == some c.column
    let s ← s.dropKey?
    return { s with keyPlace := some ⟨required, s.tokens.length, c.index, c.line, c.column⟩ }
  else some s

/-! ## Blocks -/

/-- Ends the blocks that are further right than a column. -/
def closeBlocks (column : Nat) (s : Layout) : Layout :=
  if s.inFlow then s
  else
    let ended := s.blocks.takeWhile (column < ·)
    { s with
      tokens := ended.map (fun _ => Token.blockEnd) ++ s.tokens
      blocks := s.blocks.drop ended.length }

/-- Ends all blocks. -/
def closeAllBlocks (s : Layout) : Layout :=
  if s.inFlow then s
  else { s with tokens := s.blocks.map (fun _ => Token.blockEnd) ++ s.tokens, blocks := [] }

/-- Whether a block starts at a column: outside of brackets and braces, further right than the
block around it. -/
def startsBlock (s : Layout) (column : Nat) : Bool :=
  !s.inFlow && s.blocks.head?.all (· < column)

/-- Starts a block at the place, if one starts there. -/
def openBlock (start : Token) (s : Layout) : Layout :=
  if s.startsBlock s.cursor.column then
    { s with tokens := start :: s.tokens, blocks := s.cursor.column :: s.blocks }
  else s

/-- Puts the tokens of a key in front of its place. -/
def insertKey (place : KeyPlace) (s : Layout) : Layout :=
  let starts := s.startsBlock place.column
  -- The tokens behind the place are the latest ones, which stand first.
  let later := s.tokens.length - place.tokens
  { s with
    tokens := s.tokens.take later ++ Token.key ::
      (if starts then [Token.blockMapping] else []) ++ s.tokens.drop later
    blocks := if starts then place.column :: s.blocks else s.blocks }

/-! ## Tokens -/

/-- Passes over blanks, comments and line ends. A line may start with a byte order mark, which takes
up a column. A tab may not stand where a key without a mark may start, except within brackets and
braces. The number of steps bounds the lines. -/
def skipGaps : Nat → Layout → Layout
  | 0, s => s
  | steps + 1, s =>
    let tabs := s.inFlow || !s.keyAllowed
    let c := s.cursor.skipMark.skipWhile fun ch => isSpace ch || (tabs && isBlank ch)
    let c := if c.head? == some '#' then c.skipWhile (!isBreak ·) else c
    if c.head?.any isBreak then
      skipGaps steps { s with cursor := c.readBreak.2, keyAllowed := s.keyAllowed || !s.inFlow }
    else { s with cursor := c }

/-- Reads a mark that starts or ends a document. -/
def readDocumentMark? (t : Token) (s : Layout) : Option Layout := do
  let s ← s.closeAllBlocks.dropKey?
  return { s.emit t (s.cursor.skip 3) with keyAllowed := false }

/-- Reads a directive in a line of its own. -/
def readDirectiveLine? (s : Layout) : Option Layout := do
  let s ← s.closeAllBlocks.dropKey?
  let (t, c) ← readDirective? s.cursor
  return { s.emit t c with keyAllowed := false }

/-- Reads an opening bracket or brace. -/
def openFlow? (start : Token) (s : Layout) : Option Layout := do
  let s ← s.saveKey?
  return { s.emit start s.cursor.skip with
    keyAllowed := true
    keyPlace := none
    outerKeyPlaces := s.keyPlace :: s.outerKeyPlaces }

/-- Reads a closing bracket or brace. -/
def closeFlow? (stop : Token) (s : Layout) : Option Layout := do
  let s ← s.dropKey?
  let s := { s.emit stop s.cursor.skip with keyAllowed := false }
  match s.outerKeyPlaces with
  | [] => return s
  | place :: outer => return { s with keyPlace := place, outerKeyPlaces := outer }

/-- Reads a comma. -/
def readComma? (s : Layout) : Option Layout := do
  let s ← s.dropKey?
  return { s.emit .comma s.cursor.skip with keyAllowed := true }

/-- Reads a dash, which starts a block at the place where the first one stands. -/
def readDash? (s : Layout) : Option Layout := do
  if !s.inFlow && !s.keyAllowed then none
  let s ← (s.openBlock .blockSequence).dropKey?
  return { s.emit .dash s.cursor.skip with keyAllowed := true }

/-- Reads the mark of a key. -/
def readKeyMark? (s : Layout) : Option Layout := do
  if !s.inFlow && !s.keyAllowed then none
  let s ← (s.openBlock .blockMapping).dropKey?
  return { s.emit .key s.cursor.skip with keyAllowed := !s.inFlow }

/-- Reads the colon in front of a value. If a key without a mark may have started before it, that
is the key of the value. -/
def readColon? (s : Layout) : Option Layout :=
  match s.keyPlace with
  | some place =>
    let s := { s.insertKey place with keyPlace := none }
    some { s.emit .value s.cursor.skip with keyAllowed := false }
  | none =>
    if !s.inFlow && !s.keyAllowed then none
    else
      let s := s.openBlock .blockMapping
      some { s.emit .value s.cursor.skip with keyAllowed := !s.inFlow }

/-- Reads a token that can be a key or start one. -/
def readWord? (read : Cursor → Option (Token × Cursor)) (s : Layout) : Option Layout := do
  let s ← s.saveKey?
  let (t, c) ← read s.cursor
  return { s.emit t c with keyAllowed := false }

/-- Reads an anchor or a reference after its sign. -/
def readAnchorToken? (token : String → Token) (c : Cursor) : Option (Token × Cursor) := do
  let (name, c) ← readAnchorName? c.skip
  return (token name, c)

/-- Reads a scalar in quotes. -/
def readQuotedToken? (quote : Quote) (c : Cursor) : Option (Token × Cursor) := do
  let (text, c) ← readQuoted? quote (c.rest.length + 1) c.skip
  return (.scalar .quoted (String.ofList text), c)

/-- Reads a plain scalar. A key may start behind it if that is another line. -/
def readPlainToken? (s : Layout) : Option Layout := do
  let s ← s.saveKey?
  let c := s.cursor
  let indent := s.blocks.head?.elim 0 (· + 1)
  let (text, broken, c) ← readPlain? s.inFlow indent (c.rest.length + 1) .none c
  return { s.emit (.scalar .plain (String.ofList text)) c with keyAllowed := broken }

/-- Reads a block scalar. -/
def readBlockToken? (form : ScalarForm) (s : Layout) : Option Layout := do
  let s ← s.dropKey?
  let (text, c) ← readBlockScalar? (form = .literal) s.blocks.head? s.cursor.skip
  return { s.emit (.scalar form (String.ofList text)) c with keyAllowed := true }

/-- Whether a plain scalar can start with a character, followed by another one. -/
def startsPlain (inFlow : Bool) (c : Char) (next : Option Char) : Bool :=
  if c == '-' then !next.any isBlank
  else if isGapIndicator c then !inFlow && !isGapOrEnd next
  else !isIndicator c && !isGap c

/-- Reads the token that starts with a character. -/
def readToken? (ch : Char) (s : Layout) : Option Layout :=
  let gapNext := isGapOrEnd s.cursor.second?
  if ch == '%' && s.cursor.column == 0 then s.readDirectiveLine?
  else if s.cursor.atDocumentMark then
    s.readDocumentMark? (if ch == '-' then .documentStart else .documentEnd)
  else if ch == '[' then s.openFlow? .flowSequence
  else if ch == '{' then s.openFlow? .flowMapping
  else if ch == ']' then s.closeFlow? .flowSequenceEnd
  else if ch == '}' then s.closeFlow? .flowMappingEnd
  else if ch == ',' then s.readComma?
  else if ch == '-' && gapNext then s.readDash?
  else if ch == '?' && (s.inFlow || gapNext) then s.readKeyMark?
  else if ch == ':' && (s.inFlow || gapNext) then s.readColon?
  else if ch == '*' then s.readWord? (readAnchorToken? .reference)
  else if ch == '&' then s.readWord? (readAnchorToken? .anchor)
  else if ch == '!' then s.readWord? (readTag? s.inFlow)
  else if ch == '|' && !s.inFlow then s.readBlockToken? .literal
  else if ch == '>' && !s.inFlow then s.readBlockToken? .folded
  else if ch == '\x27' then s.readWord? (readQuotedToken? .single)
  else if ch == '"' then s.readWord? (readQuotedToken? .double)
  else if startsPlain s.inFlow ch s.cursor.second? then s.readPlainToken?
  else none

/-- Reads the tokens up to the end of the text, where all blocks end. The number of steps bounds
the tokens. -/
def readTokens? : Nat → Layout → Option (List Token)
  | 0, _ => none
  | steps + 1, s => do
    let s ← (s.skipGaps (s.cursor.rest.length + 1)).dropStaleKeys?
    match s.cursor.head? with
    | none =>
      -- A key that is required here has no colon.
      let s ← s.closeAllBlocks.dropKey?
      return s.tokens.reverse
    | some ch => readTokens? steps (← (s.closeBlocks s.cursor.column).readToken? ch)

end Layout

/-- The tokens of a text. -/
def tokens? (text : String) : Option (List Token) :=
  let chars := text.toList
  if chars.all isAllowed then
    Layout.readTokens? (chars.length + 1) { cursor := .start chars }
  else none

end DerivedQuery.Yaml
