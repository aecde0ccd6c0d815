import DerivedQuery.Decimal

/-!
# Numbers in JSON

A JSON number that is no integer of at most 64 bits is taken as a significand of at most 64 bits
and a power of ten. Digits that do not fit into the significand are dropped: before the point each
of them still counts as a power of ten, behind it none does. The number is the product of the two,
each rounded by itself, so a few numbers below the greatest double are already too great.
-/

namespace DerivedQuery.Json

/-- A significand with one more digit, if it is then still below a bound. -/
def addDigit? (bound significand : Nat) (digit : Char) : Option Nat :=
  let next := significand * 10 + Decimal.digitValue digit
  if next < bound then some next else none

/-- Adds digits to a significand up to the first one that does not fit below the bound, and gives
the digits from that one on. -/
def addDigits (bound significand : Nat) : List Char → Nat × List Char
  | [] => (significand, [])
  | digit :: rest =>
    match addDigit? bound significand digit with
    | some next => addDigits bound next rest
    | none => (significand, digit :: rest)

/-- The number below a bound and the power of ten that the parts of a literal are taken as. -/
def boundedNumber (bound : Nat) (p : Decimal.Parts) : Decimal :=
  let (whole, dropped) := addDigits bound 0 p.whole
  let (significand, ignored) := addDigits bound whole p.fraction
  ⟨significand, p.exponent + dropped.length + ignored.length - p.fraction.length⟩

/-- Whether the value of an unsigned literal is finite. -/
def isFiniteLiteral (literal : List Char) : Bool :=
  (Decimal.parts? literal).any fun p => (boundedNumber (Nat.pow 2 64) p).isFiniteRounded

end DerivedQuery.Json
