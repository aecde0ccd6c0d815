import DerivedQuery.Record.Tree
import DerivedQuery.Yaml.Character
import DerivedQuery.Yaml.Scalar

/-!
# Printing YAML

A tree is written in block style: a field on each line, lists not indented below their field, an
item behind each dash. A text is written plain where that reads back as the same text. Otherwise
it is written between single quotes, over several lines as a literal block if it has line feeds,
or between double quotes with escapes if it holds what the other styles cannot show.
-/

namespace DerivedQuery.Yaml

open DerivedQuery.Record

/-! ## What a text contains -/

/-- Whether the start of a text means something else in a block. -/
def startsWithIndicator (text : List Char) : Bool :=
  ['-', '-', '-'].isPrefixOf text || ['.', '.', '.'].isPrefixOf text ||
    match text with
    | [] => false
    | c :: rest =>
      isIndicator c || (isGapIndicator c && isGapOrEnd rest.head?)

/-- Whether a colon in front of a blank or a number sign behind one follows the character
`before`. -/
def hasIndicatorAfter (before : Char) : List Char → Bool
  | [] => false
  | c :: rest =>
    (c == ':' && isGapOrEnd rest.head?) || (c == '#' && isGap before) ||
      hasIndicatorAfter c rest

/-- Whether the text means something else than itself in a block. -/
def hasIndicator (text : List Char) : Bool :=
  startsWithIndicator text ||
    match text with
    | [] => false
    | c :: rest => hasIndicatorAfter c rest

/-- Whether two neighbouring characters satisfy `p` and `q`. -/
def hasNeighbours (p q : Char → Bool) : List Char → Bool
  | c :: d :: rest => (p c && q d) || hasNeighbours p q (d :: rest)
  | _ => false

/-! ## Styles -/

/-- The ways to write a scalar. -/
inductive Style
  | plain
  | singleQuoted
  | doubleQuoted
  | literal
deriving DecidableEq, Repr

/-- Whether only escapes can show the text: a character that is not printable, or a space in front
of a line end. -/
def needsEscapes (text : List Char) : Bool :=
  !text.all isPrintable || hasNeighbours isSpace isBreak text

/-- Whether a text is kept whole by single quotes. -/
def fitsSingleQuotes (text : List Char) : Bool :=
  !needsEscapes text && !hasNeighbours isBreak isSpace text

/-- Whether a text is kept whole by a literal block. -/
def fitsLiteral (text : List Char) : Bool :=
  !needsEscapes text && text.getLast?.all (!isSpace ·)

/-- Whether a text is kept whole without quotes. -/
def fitsPlain (text : List Char) : Bool :=
  !needsEscapes text && !text.any isBreak && text.head?.all (!isSpace ·) &&
    text.getLast?.all (!isSpace ·) && !hasIndicator text

/-- Whether a text without quotes would be something else than a text. -/
def looksTyped (text : String) : Bool :=
  plainValue text != .text || isPaddedDigits text.toList

/-- The style a text is written in. -/
def styleOf (text : String) : Style :=
  let chars := text.toList
  if chars.contains '\n' then if fitsLiteral chars then .literal else .doubleQuoted
  else if !looksTyped text && fitsPlain chars then .plain
  else if fitsSingleQuotes chars then .singleQuoted
  else .doubleQuoted

/-! ## Scalars -/

/-- Blanks up to a column. -/
def padding (column : Nat) : List Char := List.replicate column ' '

/-- The text with blanks at the start of every line that is not empty, where a line is one of
those after a line end. -/
def indentAfterBreaks (column : Nat) (atLineStart : Bool) : List Char → List Char
  | [] => []
  | c :: rest =>
    if isBreak c then c :: indentAfterBreaks column true rest
    else (if atLineStart then padding column else []) ++ c :: indentAfterBreaks column false rest

/-- An upper-case hexadecimal digit. -/
def upperHexDigit (n : Nat) : Char :=
  if n < 10 then Char.ofNat (0x30 + n) else Char.ofNat (0x41 + (n - 10))

/-- A number in hexadecimal with a given number of digits. -/
def upperHex : Nat → Nat → List Char
  | 0, _ => []
  | width + 1, n => upperHex width (n / 16) ++ [upperHexDigit (n % 16)]

/-- The characters with an escape of one letter. -/
def shortEscapes : List (Char × Char) := [
  ('\x00', '0'), ('\x07', 'a'), ('\x08', 'b'), ('\t', 't'), ('\n', 'n'), ('\x0B', 'v'),
  ('\x0C', 'f'), ('\r', 'r'), ('\x1B', 'e'), ('"', '"'), ('\\', '\\'), ('\u0085', 'N'),
  ('\u00A0', '_'), ('\u2028', 'L'), ('\u2029', 'P')]

/-- A character as it stands between double quotes. -/
def escapeChar (c : Char) : List Char :=
  if isPrintable c && !isBreak c && c != '"' && c != '\\' then [c]
  else
    match shortEscapes.lookup c with
    | some letter => ['\\', letter]
    | none =>
      let n := c.toNat
      if n ≤ 0xFF then '\\' :: 'x' :: upperHex 2 n
      else if n ≤ 0xFFFF then '\\' :: 'u' :: upperHex 4 n
      else '\\' :: 'U' :: upperHex 8 n

/-- The indicator of a literal block: its indentation where the text would hide it, and what
becomes of the line ends at its end. -/
def literalHeader (text : List Char) : List Char :=
  let hint := if text.head?.any fun c => isSpace c || isBreak c then ['2'] else []
  let chomp :=
    match text.reverse with
    | last :: before :: _ =>
      if !isBreak last then ['-'] else if isBreak before then ['+'] else []
    | [last] => if isBreak last then ['+'] else ['-']
    | [] => ['-']
  '|' :: hint ++ chomp

/-- A text as a scalar up to the end of its last line. Lines after the first start at a column. -/
def scalarLines (column : Nat) (text : String) : List Char :=
  let chars := text.toList
  match styleOf text with
  | .plain => chars ++ ['\n']
  | .singleQuoted =>
    let doubled := chars.flatMap fun c => if c == '\x27' then [c, c] else [c]
    '\x27' :: indentAfterBreaks column false (doubled ++ ['\x27']) ++ ['\n']
  | .doubleQuoted => '"' :: chars.flatMap escapeChar ++ ['"', '\n']
  | .literal =>
    let lines := indentAfterBreaks column true chars
    literalHeader chars ++ '\n' :: lines ++ if chars.getLast?.any isBreak then [] else ['\n']

/-! ## Trees -/

/-- What stands between the colon of a field and its value, and the column of the value's further
lines, when the field's name is at a column. -/
def fieldLead (column : Nat) : Tree → List Char × Nat
  | .list (_ :: _) => ('\n' :: padding column, column)
  | .record (_ :: _) => ('\n' :: padding (column + 2), column + 2)
  | _ => ([' '], column + 2)

mutual

/-- The lines of a tree. The first one starts where the text before it ends, the others at a
column. -/
def treeLines (column : Nat) : Tree → List Char
  | .text value => scalarLines column value
  | .flag value => (if value then "true" else "false").toList ++ ['\n']
  | .list items => if items.isEmpty then "[]\n".toList else itemsLines column items
  | .record fields => if fields.isEmpty then "{}\n".toList else fieldsLines column fields

/-- The lines of items, each behind a dash. -/
def itemsLines (column : Nat) : List Tree → List Char
  | [] => []
  | value :: rest =>
    '-' :: ' ' :: treeLines (column + 2) value ++
      (if rest.isEmpty then [] else padding column) ++ itemsLines column rest

/-- The lines of fields, each behind its name. -/
def fieldsLines (column : Nat) : List (String × Tree) → List Char
  | [] => []
  | (name, value) :: rest =>
    let (lead, valueColumn) := fieldLead column value
    name.toList ++ ':' :: lead ++ treeLines valueColumn value ++
      (if rest.isEmpty then [] else padding column) ++ fieldsLines column rest

end

/-- The tree as a YAML text. -/
def print (t : Tree) : String := String.ofList (treeLines 0 t)

end DerivedQuery.Yaml
