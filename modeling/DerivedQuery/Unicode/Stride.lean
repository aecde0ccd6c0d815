/-!
# Strides of code points

A character property is a set of code points, and most of such a set lies in runs: neighbours, or
every second code point where upper and lower case alternate. A table of a property is a list of
`Stride`s, and `Stride.cover` tells whether one of them has a code point as a member.
-/

namespace DerivedQuery.Unicode

/-- The code points `first`, `first + step`, … up to `last`. -/
structure Stride where
  first : Nat
  last : Nat
  step : Nat
deriving Repr, DecidableEq

namespace Stride

/-- Whether `n` is a member of the stride. -/
def covers (s : Stride) (n : Nat) : Bool :=
  s.first ≤ n && n ≤ s.last && (n - s.first) % s.step == 0

/-- Whether `n` is a member of one of the strides. -/
def cover (strides : List Stride) (n : Nat) : Bool :=
  strides.any (·.covers n)

end Stride

end DerivedQuery.Unicode
