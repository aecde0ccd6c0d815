import DerivedQuery.Decimal

/-!
# The meaning of plain scalars

A YAML scalar without quotes stands for a text unless it looks like null, a truth value or a
number. Numbers are decimal, hexadecimal, octal or binary integers of at most 128 bits, or decimal
fractions with a finite value; digits after a leading zero are a text.
-/

namespace DerivedQuery.Yaml

/-- What a plain scalar stands for. -/
inductive PlainValue
  | null
  | flag (value : Bool)
  /-- A natural number of at most 64 bits. -/
  | natural (value : Nat)
  /-- A negative integer of at most 64 bits, or a number that is not an integer. -/
  | number
  /-- An integer that needs more than 64 bits. -/
  | wide
  | text
deriving DecidableEq, Repr

/-- The texts for null, but for the empty one. -/
def nullWords : List String := ["null", "Null", "NULL", "~"]

/-- The truth value a text stands for. -/
def flag? (text : String) : Option Bool :=
  if ["true", "True", "TRUE"].contains text then some true
  else if ["false", "False", "FALSE"].contains text then some false
  else none

/-- The value of a digit in a base of at most sixteen. -/
def digit? (base : Nat) (c : Char) : Option Nat :=
  let value? : Option Nat :=
    if c.isDigit then some (c.toNat - 0x30)
    else if 'a' ≤ c ∧ c ≤ 'f' then some (c.toNat - 0x61 + 10)
    else if 'A' ≤ c ∧ c ≤ 'F' then some (c.toNat - 0x41 + 10)
    else none
  value?.filter (· < base)

/-- The number that one or more digits of a base stand for. -/
def digits? (base : Nat) (text : List Char) : Option Nat :=
  if text.isEmpty then none
  else text.foldlM (fun n c => (digit? base c).map (n * base + ·)) 0

/-- Whether a text starts with a sign. -/
def isSigned (text : List Char) : Bool :=
  match text with
  | c :: _ => c == '+' || c == '-'
  | [] => false

/-- The text without the sign it starts with. -/
def dropSign (text : List Char) : List Char := if isSigned text then text.tail else text

/-- Whether a text is digits after a leading zero, perhaps with a sign. -/
def isPaddedDigits (text : List Char) : Bool :=
  let unsigned := dropSign text
  unsigned.length > 1 && unsigned.head? == some '0' && unsigned.all Char.isDigit

/-- The value of digits behind a zero and the letter of their base. -/
def based? (text : List Char) : Option Nat :=
  match text with
  | '0' :: 'x' :: digits => digits? 16 digits
  | '0' :: 'o' :: digits => digits? 8 digits
  | '0' :: 'b' :: digits => digits? 2 digits
  | _ => none

/-- The natural number a text stands for, perhaps with a plus sign. -/
def natural? (text : List Char) : Option Nat :=
  let unsigned := if text.head? == some '+' then text.tail else text
  match based? unsigned with
  | some n => some n
  | none => if isPaddedDigits text then none else digits? 10 unsigned

/-- The amount of the negative number a text stands for. -/
def negative? (text : List Char) : Option Nat :=
  match text with
  | '-' :: unsigned =>
    match based? unsigned with
    | some n => some n
    | none => if isPaddedDigits text then none else digits? 10 unsigned
  | _ => none

/-- Whether a text is one of the words for infinities and for no number. -/
def isFloatWord (text : String) : Bool :=
  [".inf", ".Inf", ".INF", "+.inf", "+.Inf", "+.INF", "-.inf", "-.Inf", "-.INF", ".nan", ".NaN",
   ".NAN"].contains text

/-- Whether a text is a decimal number with a finite value. -/
def isFraction (text : List Char) : Bool :=
  match Decimal.read? (dropSign text) with
  | some d => d.isFinite
  | none => false

/-- Whether a text stands for a number that need not be an integer. -/
def isReal (text : String) : Bool := isFloatWord text || isFraction text.toList

/-- The value of the integer of at most 128 bits that a text stands for. -/
def integerValue? (text : String) : Option PlainValue :=
  match natural? text.toList, negative? text.toList with
  | some n, _ => if n < Nat.pow 2 64 then some (.natural n) else if n < Nat.pow 2 128 then some .wide else none
  | none, some n =>
    if n ≤ Nat.pow 2 63 then some .number else if n ≤ Nat.pow 2 127 then some .wide else none
  | none, none => none

/-- What a plain scalar stands for. -/
def plainValue (text : String) : PlainValue :=
  if text.isEmpty || nullWords.contains text then .null
  else
    match flag? text, integerValue? text with
    | some b, _ => .flag b
    | none, some value => value
    | none, none => if !isPaddedDigits text.toList && isReal text then .number else .text

end DerivedQuery.Yaml
