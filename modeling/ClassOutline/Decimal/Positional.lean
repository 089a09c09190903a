/-
  Decimal/Positional.lean --- floating-point numbers as text.

  A number is written with its shortest digits in positional notation, however
  many zeros that takes: never with an exponent, and with a point only where a
  fraction follows it.  Zero keeps its sign; what is not a number has none.
-/
import ClassOutline.Decimal.Shortest

set_option autoImplicit false

namespace ClassOutline.Decimal

/-- The digits after the point, without the zeros that end them. -/
def trimFraction (digits : List Char) : List Char :=
  (digits.reverse.dropWhile (· == '0')).reverse

/-- A numeral in positional notation. -/
def Numeral.positional (d : Numeral) : String :=
  let digits := Nat.toDigits 10 d.digits
  if 0 ≤ d.exponent then
    String.ofList (digits ++ List.replicate d.exponent.toNat '0')
  else
    let places := (-d.exponent).toNat
    let padded := List.replicate (places + 1 - digits.length) '0' ++ digits
    let whole := padded.take (padded.length - places)
    match trimFraction (padded.drop (padded.length - places)) with
    | [] => String.ofList whole
    | fraction => String.ofList (whole ++ '.' :: fraction)

/-- A minus sign, if there is to be one. -/
def sign (negative : Bool) : String := if negative then "-" else ""

/-- The text of a value. -/
def Value.text : Value → String
  | .notANumber => "NaN"
  | .infinite negative => sign negative ++ "inf"
  | .zero negative => sign negative ++ "0"
  | .finite negative magnitude => sign negative ++ magnitude.shortest.positional

/-- The text of a 32-bit word. -/
def textOfSingle (bits : UInt32) : String := (Format.single.classify bits.toNat).text

/-- The text of a 64-bit word. -/
def textOfDouble (bits : UInt64) : String := (Format.double.classify bits.toNat).text

example : textOfSingle 0x3DCCCCCD = "0.1" := by decide +kernel
example : textOfDouble 0x3E60000000000000 = "0.000000029802322387695313" := by decide +kernel
example : textOfDouble 0x44B52D02C7E14AF6 = "100000000000000000000000" := by decide +kernel

end ClassOutline.Decimal
