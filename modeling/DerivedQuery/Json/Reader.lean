import DerivedQuery.Json.Basic

/-!
# Reading JSON

The grammar of JSON and nothing more: blanks are the space, the tab and the line ends; numbers have
no leading zeros; strings hold no raw control characters; nothing but blanks follows the value.

Each function reads one part from the front of a text and gives the rest. The functions on values
take a number of steps that they may go down; the number of characters is always enough, because
every step takes one.
-/

namespace DerivedQuery.Json

/-- Whether a character may stand between the parts of a JSON text. -/
def isBlank (c : Char) : Bool := c = ' ' || c = '\t' || c = '\n' || c = '\r'

/-- The text from the first character on that is not blank. -/
def skipBlanks (text : List Char) : List Char := text.dropWhile isBlank

/-- Reads the rest of a string literal up to the quote that ends it. -/
def readLiteral : List Char → Option (List Char × List Char)
  | [] => none
  | '\\' :: 'u' :: a :: b :: c :: d :: rest =>
    if (hexQuad? a b c d).isSome then
      (readLiteral rest).map fun (l, after) => ('\\' :: 'u' :: a :: b :: c :: d :: l, after)
    else none
  | '\\' :: letter :: rest =>
    if (unescape? letter).isSome then
      (readLiteral rest).map fun (l, after) => ('\\' :: letter :: l, after)
    else none
  | c :: rest =>
    if c = '"' then some ([], rest)
    else if c = '\\' || c.toNat < 0x20 then none
    else (readLiteral rest).map fun (l, after) => (c :: l, after)

/-- Reads one or more digits. -/
def readDigits (text : List Char) : Option (List Char × List Char) :=
  match text.takeWhile Char.isDigit with
  | [] => none
  | digits => some (digits, text.dropWhile Char.isDigit)

/-- Reads the digits before the point: a zero, or digits without a leading zero. -/
def readInteger : List Char → Option (List Char × List Char)
  | '0' :: rest => some (['0'], rest)
  | text => readDigits text

/-- Reads the point and the digits after it, if there is a point. -/
def readFraction : List Char → Option (List Char × List Char)
  | '.' :: rest => (readDigits rest).map fun (digits, after) => ('.' :: digits, after)
  | text => some ([], text)

/-- Reads the sign of an exponent. -/
def readSign : List Char → List Char × List Char
  | '+' :: rest => (['+'], rest)
  | '-' :: rest => (['-'], rest)
  | text => ([], text)

/-- Reads an exponent, if there is one. -/
def readExponent (text : List Char) : Option (List Char × List Char) :=
  match text with
  | c :: rest =>
    if c = 'e' || c = 'E' then do
      let (sign, unsigned) := readSign rest
      let (digits, after) ← readDigits unsigned
      return (c :: sign ++ digits, after)
    else some ([], text)
  | [] => some ([], [])

/-- Reads a number. -/
def readNumber (text : List Char) : Option (List Char × List Char) := do
  let (sign, unsigned) : List Char × List Char :=
    match text with
    | '-' :: rest => (['-'], rest)
    | _ => ([], text)
  let (integer, afterInteger) ← readInteger unsigned
  let (fraction, afterFraction) ← readFraction afterInteger
  let (exponent, rest) ← readExponent afterFraction
  return (sign ++ integer ++ fraction ++ exponent, rest)

/-- The text behind a word, if it starts with that word. -/
def dropWord (word : String) (text : List Char) : Option (List Char) :=
  if word.toList.isPrefixOf text then some (text.drop word.length) else none

mutual

/-- Reads a value. -/
def readValue : Nat → List Char → Option (Json × List Char)
  | 0, _ => none
  | steps + 1, text =>
    match skipBlanks text with
    | [] => none
    | c :: rest =>
      if c = '"' then do
        let (literal, after) ← readLiteral rest
        return (.string (String.ofList literal), after)
      else if c = '[' then
        match skipBlanks rest with
        | ']' :: after => some (.array [], after)
        | _ => do
          let (items, after) ← readItems steps rest
          return (.array items, after)
      else if c = '{' then
        match skipBlanks rest with
        | '}' :: after => some (.object [], after)
        | _ => do
          let (members, after) ← readMembers steps rest
          return (.object members, after)
      else if c = 'n' then (dropWord "ull" rest).map (Json.null, ·)
      else if c = 't' then (dropWord "rue" rest).map (Json.bool true, ·)
      else if c = 'f' then (dropWord "alse" rest).map (Json.bool false, ·)
      else do
        let (literal, after) ← readNumber (c :: rest)
        return (.number (String.ofList literal), after)

/-- Reads one or more items and the bracket that ends them. -/
def readItems : Nat → List Char → Option (List Json × List Char)
  | 0, _ => none
  | steps + 1, text => do
    let (item, afterItem) ← readValue steps text
    match skipBlanks afterItem with
    | ',' :: rest => do
      let (items, after) ← readItems steps rest
      return (item :: items, after)
    | ']' :: after => return ([item], after)
    | _ => none

/-- Reads one or more members and the brace that ends them. -/
def readMembers : Nat → List Char → Option (List (String × Json) × List Char)
  | 0, _ => none
  | steps + 1, text =>
    match skipBlanks text with
    | '"' :: nameText => do
      let (name, afterName) ← readLiteral nameText
      match skipBlanks afterName with
      | ':' :: valueText => do
        let (value, afterValue) ← readValue steps valueText
        match skipBlanks afterValue with
        | ',' :: rest => do
          let (members, after) ← readMembers steps rest
          return ((String.ofList name, value) :: members, after)
        | '}' :: after => return ([(String.ofList name, value)], after)
        | _ => none
      | _ => none
    | _ => none

end

/-- The value of a JSON text. -/
def read? (text : String) : Option Json :=
  match readValue (text.length + 1) text.toList with
  | some (value, rest) => if (skipBlanks rest).isEmpty then some value else none
  | none => none

end DerivedQuery.Json
