/-
  Decimal/Binary.lean --- what the bits of a binary floating-point number mean.

  A word holds a sign bit, a biased exponent and a fraction.  `Format.classify`
  splits it and names the four cases; a finite nonzero magnitude is kept as
  `mantissa * 2 ^ exponent`, together with the one fact about its neighbours
  that rounding needs: whether the gap below is half the gap above.
-/
set_option autoImplicit false

namespace ClassOutline.Decimal

/-- The widths of a binary floating-point format. -/
structure Format where
  /-- The number of fraction bits. -/
  fractionBits : Nat
  /-- The number of exponent bits. -/
  exponentBits : Nat
  deriving DecidableEq, Repr

/-- The 32-bit format. -/
def Format.single : Format := ⟨23, 8⟩

/-- The 64-bit format. -/
def Format.double : Format := ⟨52, 11⟩

/-- A finite magnitude other than zero. -/
structure Magnitude where
  mantissa : Nat
  exponent : Int
  /-- Whether the gap to the value below is half the gap to the value above. -/
  narrowBelow : Bool
  deriving DecidableEq, Repr

/-- What a word of a format stands for. -/
inductive Value where
  | notANumber
  | infinite (negative : Bool)
  | zero (negative : Bool)
  | finite (negative : Bool) (magnitude : Magnitude)
  deriving DecidableEq, Repr

/-- The value of a word.

The greatest biased exponent is kept for infinity and for what is not a number.
The least one, 0, has no implicit leading bit and the scale of exponent 1.  The
gap below is the narrow one exactly where the fraction is zero and an implicit
leading bit is present; at the least such value the two gaps agree, but no
shorter decimal lies between, so it need not be told apart. -/
def Format.classify (format : Format) (bits : Nat) : Value :=
  let fraction := bits % Nat.pow 2 format.fractionBits
  let biased := bits / Nat.pow 2 format.fractionBits % Nat.pow 2 format.exponentBits
  let negative := bits / Nat.pow 2 (format.fractionBits + format.exponentBits) % 2 == 1
  -- The exponent of the last fraction bit where the biased exponent is 1.
  let least : Int := 2 - Int.ofNat (Nat.pow 2 (format.exponentBits - 1)) - format.fractionBits
  if biased + 1 = Nat.pow 2 format.exponentBits then
    if fraction = 0 then .infinite negative else .notANumber
  else if biased = 0 then
    if fraction = 0 then .zero negative else .finite negative ⟨fraction, least, false⟩
  else
    .finite negative
      ⟨Nat.pow 2 format.fractionBits + fraction, least + (biased - 1), fraction == 0⟩

end ClassOutline.Decimal
