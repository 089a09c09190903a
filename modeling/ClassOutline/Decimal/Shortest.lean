/-
  Decimal/Shortest.lean --- the fewest digits that identify a binary number.

  The reals that round to a magnitude form an interval: from halfway to the
  value below it to halfway to the value above, its ends included exactly when
  the mantissa is even.  The search looks at ever finer decimal grids, from the
  one of the leading digit down.  On each grid only the two neighbours of the
  magnitude can be nearest to it; the first grid on which one of them lies in
  the interval gives the digits.  Of two that do, the nearer is taken, and the
  upper one if both are equally near.

  All comparisons are between natural numbers, so nothing is rounded on the way.
-/
import ClassOutline.Decimal.Binary

set_option autoImplicit false

namespace ClassOutline.Decimal

/-- The number `digits * 10 ^ exponent`. -/
structure Numeral where
  digits : Nat
  exponent : Int
  deriving DecidableEq, Repr

namespace Magnitude

/-- Four times the mantissa, so that the ends of the rounding interval are whole:
the interval reaches from `quadruple - gapBelow` to `quadruple + 2`, in units of
`2 ^ (exponent - 2)`. -/
def quadruple (x : Magnitude) : Nat := 4 * x.mantissa

/-- The distance to the lower end of the rounding interval. -/
def gapBelow (x : Magnitude) : Nat := if x.narrowBelow then 1 else 2

/-- The factor on the left of a comparison between `a * 2 ^ (exponent - 2)` and
`d * 10 ^ e`, after both sides were made whole. -/
def binaryScale (x : Magnitude) (e : Int) : Nat := Nat.pow 2 (x.exponent - 2).toNat * Nat.pow 10 (-e).toNat

/-- The factor on the right of the same comparison. -/
def decimalScale (x : Magnitude) (e : Int) : Nat := Nat.pow 2 (2 - x.exponent).toNat * Nat.pow 10 e.toNat

/-- Whether `d * 10 ^ e` rounds to the magnitude. -/
def readsBack (x : Magnitude) (d : Nat) (e : Int) : Bool :=
  let low := (x.quadruple - x.gapBelow) * x.binaryScale e
  let high := (x.quadruple + 2) * x.binaryScale e
  let here := d * x.decimalScale e
  if x.mantissa % 2 = 0 then low ≤ here && here ≤ high else low < here && here < high

/-- The greatest `d` with `d * 10 ^ e` at most the magnitude. -/
def floorOn (x : Magnitude) (e : Int) : Nat :=
  x.quadruple * x.binaryScale e / x.decimalScale e

/-- Whether `d * 10 ^ e` is nearer to the magnitude than `(d + 1) * 10 ^ e`, where
the magnitude lies between the two. -/
def nearerBelow (x : Magnitude) (d : Nat) (e : Int) : Bool :=
  2 * (x.quadruple * x.binaryScale e) < (2 * d + 1) * x.decimalScale e

/-- The neighbour of the magnitude on the grid `10 ^ e` that rounds to it: the
nearer one if both do. -/
def onGrid? (x : Magnitude) (e : Int) : Option Nat :=
  let d := x.floorOn e
  match x.readsBack d e, x.readsBack (d + 1) e with
  | false, false => none
  | true, false => some d
  | false, true => some (d + 1)
  | true, true => some (if x.nearerBelow d e then d else d + 1)

/-- The least `k` with the magnitude below `10 ^ k`. -/
def decimalOrder (x : Magnitude) : Int :=
  -- A negative power of two is the same power of five over a power of ten.
  let whole := x.mantissa * Nat.pow 2 x.exponent.toNat * Nat.pow 5 (-x.exponent).toNat
  (Nat.toDigits 10 whole).length - (-x.exponent).toNat

/-- Searches `steps` grids from `10 ^ e` downwards, and takes the digits of the
next grid as they are if none of them has an answer. -/
def search (x : Magnitude) : (steps : Nat) → (e : Int) → Numeral
  | 0, e => ⟨x.floorOn e, e⟩
  | steps + 1, e =>
    match x.onGrid? e with
    | some d => ⟨d, e⟩
    | none => x.search steps (e - 1)

/-- The numeral with the fewest digits that rounds to the magnitude.

The magnitude is a whole multiple of `10 ^ min exponent 0`, so the last grid of
the search holds the magnitude itself. -/
def shortest (x : Magnitude) : Numeral :=
  let first := x.decimalOrder - 1
  x.search (first - min x.exponent 0).toNat first

end Magnitude

end ClassOutline.Decimal
