import DerivedQuery.Yaml.Cursor
import DerivedQuery.Yaml.Scalar

/-!
# Tokens of YAML

A YAML text is read as a list of tokens. Some of them are written as signs, others stand for the
layout: a block collection starts where a line is indented further than the block around it, and
ends where a line is indented less.

This module also reads the tokens that are made of a word: anchors, tags and directives.
-/

namespace DerivedQuery.Yaml

/-- How a scalar is written. -/
inductive ScalarForm
  | plain
  | quoted
  | literal
  | folded
deriving DecidableEq, Repr

/-- The bytes of a tag. An escape can stand for any byte, so they need not be those of a text. -/
abbrev TagBytes := List UInt8

/-- The bytes of the tag that is written as a text. -/
def tagOfText (text : String) : TagBytes := text.toUTF8.toList

/-- A token. -/
inductive Token
  /-- The version of YAML that a text asks for. -/
  | version (major minor : Nat)
  /-- A handle, and what it stands for at the start of a tag. -/
  | handle (name : String) (expansion : TagBytes)
  | documentStart
  | documentEnd
  | blockSequence
  | blockMapping
  /-- The end of a block collection. -/
  | blockEnd
  | flowSequence
  | flowSequenceEnd
  | flowMapping
  | flowMappingEnd
  /-- The dash in front of an item of a block. -/
  | dash
  /-- The comma between items in brackets or braces. -/
  | comma
  /-- What stands in front of a key. -/
  | key
  /-- What stands in front of the value of a key. -/
  | value
  /-- A mark at a node, under which the node can be referred to. -/
  | anchor (name : String)
  /-- A reference to a node with an anchor. -/
  | reference (name : String)
  /-- The type of a node, with a handle in front unless that is empty. -/
  | tag (handle : String) (suffix : TagBytes)
  | scalar (form : ScalarForm) (text : String)
deriving DecidableEq, Repr

/-! ## Anchors -/

/-- Whether a character may stand behind the name of an anchor, a gap apart. -/
def endsAnchor (c : Char) : Bool :=
  ['?', ':', ',', ']', '}', '%', '@', '\x60'].contains c

/-- Reads the name of an anchor. -/
def readAnchorName? (c : Cursor) : Option (String × Cursor) :=
  let (name, c) := c.span isWordChar
  if !name.isEmpty && c.head?.all (fun d => isGap d || endsAnchor d) then
    some (String.ofList name, c)
  else none

/-! ## Tags -/

/-- Whether a character can be part of a tag. The flow indicators can only where the tag ends
elsewhere. -/
def isTagChar (closed : Bool) (c : Char) : Bool :=
  isWordChar c || [';', '/', '?', ':', '@', '&', '=', '+', '$', '.', '!', '~', '*', '\x27', '(',
    ')', '%'].contains c || (closed && (c == ',' || c == '[' || c == ']'))

/-- How many bytes follow a byte at the start of a character. -/
def followers? (byte : UInt8) : Option Nat :=
  if byte < 0x80 then some 0
  else if byte &&& 0xE0 == 0xC0 then some 1
  else if byte &&& 0xF0 == 0xE0 then some 2
  else if byte &&& 0xF8 == 0xF0 then some 3
  else none

/-- How many more bytes belong to a character after one more byte, when `pending` did before it. -/
def pendingAfter? (byte : UInt8) : Nat → Option Nat
  | 0 => followers? byte
  | pending + 1 => if byte &&& 0xC0 == 0x80 then some pending else none

/-- The bytes that characters of a tag stand for. An escape is a percent sign and two digits, and
all bytes of a character have to be escaped if one is; `pending` of them are still to come. -/
def tagBytes? (pending : Nat) : List Char → Option TagBytes
  | '%' :: high :: low :: rest => do
    let byte := UInt8.ofNat ((← digit? 16 high) * 16 + (← digit? 16 low))
    return byte :: (← tagBytes? (← pendingAfter? byte pending) rest)
  | '%' :: _ => none
  | c :: rest => if pending = 0 then (tagBytes? 0 rest).map (UInt8.ofNat c.toNat :: ·) else none
  | [] => if pending = 0 then some [] else none

/-- Reads the characters of a tag, of which there has to be one if it is `needed`. Their bytes count
up to the first zero. -/
def readTagText? (closed needed : Bool) (c : Cursor) : Option (TagBytes × Cursor) := do
  let (text, c) := c.span (isTagChar closed)
  if needed && text.isEmpty then none
  return ((← tagBytes? 0 text).takeWhile (· != 0), c)

/-- Reads the exclamation mark at the cursor and the word behind it, with a mark at its end if there
is one. -/
def readHandle (c : Cursor) : String × Cursor :=
  let (word, c) := c.skip.span isWordChar
  if c.head? == some '!' then (String.ofList ('!' :: word ++ ['!']), c.skip)
  else (String.ofList ('!' :: word), c)

/-- Whether a word is a handle, which a mark starts and another one ends. -/
def isHandle (word : String) : Bool := word.length > 1 && word.endsWith "!"

/-- Reads a tag. -/
def readTag? (inFlow : Bool) (c : Cursor) : Option (Token × Cursor) := do
  let (token, c) ←
    if c.second? == some '<' then do
      let (text, c) ← readTagText? true true (c.skip 2)
      if c.head? != some '>' then none else some (Token.tag "" text, c.skip)
    else do
      let (word, c) := readHandle c
      let (text, c) ← readTagText? false (isHandle word) c
      if isHandle word then some (Token.tag word text, c)
      else
        let suffix := tagOfText (word.drop 1).toString ++ text
        some (if suffix.isEmpty then Token.tag "" (tagOfText "!") else Token.tag "!" suffix, c)
  if isGapOrEnd c.head? || (inFlow && c.head? == some ',') then some (token, c) else none

/-! ## Directives -/

/-- Reads a number of at most nine digits. -/
def readVersionPart? (c : Cursor) : Option (Nat × Cursor) := do
  let (digits, c) := c.span Char.isDigit
  if digits.length > 9 then none else some (← digits? 10 digits, c)

/-- Reads a directive and the rest of its line. -/
def readDirective? (c : Cursor) : Option (Token × Cursor) := do
  let (name, c) := c.skip.span isWordChar
  if !isGapOrEnd c.head? then none
  let (token, c) ←
    match String.ofList name with
    | "YAML" => do
      let (major, c) ← readVersionPart? (c.skipWhile isBlank)
      if c.head? != some '.' then none
      else do
        let (minor, c) ← readVersionPart? c.skip
        return (Token.version major minor, c)
    | "TAG" => do
      let c := c.skipWhile isBlank
      let (word, afterWord) := readHandle c
      let (text, rest) ← readTagText? true true (afterWord.skipWhile isBlank)
      let isWhole := c.head? == some '!' && (word == "!" || isHandle word) &&
        afterWord.head?.any isBlank && isGapOrEnd rest.head?
      if isWhole then some (Token.handle word text, rest) else none
    | _ => none
  return (token, ← c.finishLine?)

end DerivedQuery.Yaml
