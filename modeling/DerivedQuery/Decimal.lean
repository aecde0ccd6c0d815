/-!
# Decimal numbers

A decimal text has digits, a point among them and an exponent, the last two optional. This module
reads such texts and says whether their values are finite in double precision: a number rounds to
53 binary digits, and from half a unit above the greatest double on (`doubleBound`) to no finite
one.
-/

namespace DerivedQuery

/-- The number `significand * 10 ^ exponent`. -/
structure Decimal where
  significand : Nat
  exponent : Int
deriving DecidableEq, Repr

namespace Decimal

/-! ## Texts -/

/-- The digits of a decimal text before and behind its point, and its exponent. -/
structure Parts where
  whole : List Char
  fraction : List Char
  exponent : Int
deriving DecidableEq, Repr

/-- The value of a decimal digit. -/
def digitValue (digit : Char) : Nat := digit.toNat - 0x30

/-- The number that digits stand for. -/
def digitsValue (digits : List Char) : Nat :=
  digits.foldl (fun n digit => n * 10 + digitValue digit) 0

/-- Splits the digits off the front of a text. -/
def splitDigits (text : List Char) : List Char × List Char := text.span Char.isDigit

/-- Reads the exponent of a number up to the end of the text: nothing, or a mark, a sign and one or
more digits. -/
def readExponent? : List Char → Option Int
  | [] => some 0
  | mark :: rest =>
    if mark = 'e' || mark = 'E' then
      let (sign, digits) : Int × List Char :=
        match rest with
        | '-' :: digits => (-1, digits)
        | '+' :: digits => (1, digits)
        | digits => (1, digits)
      if digits.isEmpty || !digits.all Char.isDigit then none
      else some (sign * digitsValue digits)
    else none

/-- The parts of an unsigned number: digits with at most one point among them, at least one digit,
and an exponent. -/
def parts? (text : List Char) : Option Parts :=
  let (whole, afterWhole) := splitDigits text
  let (fraction, afterFraction) : List Char × List Char :=
    match afterWhole with
    | '.' :: rest => splitDigits rest
    | rest => ([], rest)
  if whole.isEmpty && fraction.isEmpty then none
  else (readExponent? afterFraction).map (⟨whole, fraction, ·⟩)

/-- The number that parts stand for. -/
def ofParts (p : Parts) : Decimal :=
  ⟨digitsValue (p.whole ++ p.fraction), p.exponent - p.fraction.length⟩

/-- The unsigned number a text stands for. -/
def read? (text : List Char) : Option Decimal := (parts? text).map ofParts

/-! ## Double precision -/

/-- Half a unit above the greatest finite number of double precision. -/
def doubleBound : Nat := Nat.pow 2 1024 - Nat.pow 2 970

/-- A natural number rounded to 53 binary digits. A number halfway between two others goes to the
even one. -/
def roundToDouble (n : Nat) : Nat :=
  let unit := Nat.pow 2 (n.log2 + 1 - 53)
  let count := n / unit
  let twice := 2 * (n % unit)
  if unit < twice || (unit == twice && count % 2 == 1) then (count + 1) * unit else count * unit

/-- Whether the number rounds to a finite number of double precision. The number of digits decides
but for the numbers of the bound's own magnitude. -/
def isFinite (d : Decimal) : Bool :=
  if d.significand = 0 then true
  else
    let magnitude : Int := (toString d.significand).length + d.exponent
    if magnitude < 309 then true
    else if magnitude > 309 then false
    else if 0 ≤ d.exponent then d.significand * Nat.pow 10 d.exponent.toNat < doubleBound
    else d.significand < doubleBound * Nat.pow 10 (-d.exponent).toNat

/-- Whether the product of the significand and the power of ten is finite when each of them is
rounded to double precision first. The powers are finite up to the 308th. -/
def isFiniteRounded (d : Decimal) : Bool :=
  if d.significand = 0 || d.exponent ≤ 0 then true
  else if 308 < d.exponent then false
  else roundToDouble d.significand * roundToDouble (Nat.pow 10 d.exponent.toNat) < doubleBound

end Decimal

end DerivedQuery
