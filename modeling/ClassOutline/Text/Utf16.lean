/-
  Text/Utf16.lean --- characters from 16-bit code units.

  A high surrogate directly followed by a low one stands for one supplementary
  character.  Every other surrogate is unpaired and becomes U+FFFD; any other
  unit is the character of its number.
-/
import ClassOutline.Transducer

set_option autoImplicit false

namespace ClassOutline.Text.Utf16

/-- Whether a unit is a high (leading) surrogate. -/
def isHigh (u : UInt16) : Bool := 0xD800 ≤ u && u < 0xDC00

/-- Whether a unit is a low (trailing) surrogate. -/
def isLow (u : UInt16) : Bool := 0xDC00 ≤ u && u < 0xE000

/-- The character that stands in for an unpaired surrogate. -/
def replacement : Char := '\uFFFD'

/-- The character of a unit on its own. -/
def single (u : UInt16) : Char :=
  if isHigh u || isLow u then replacement else Char.ofNat u.toNat

/-- The supplementary character of a high and a low surrogate. -/
def pair (high low : UInt16) : Char :=
  Char.ofNat (0x10000 + (high.toNat - 0xD800) * 0x400 + (low.toNat - 0xDC00))

/-- Reads a unit where no high surrogate is waiting. -/
def begin (u : UInt16) : List Char × Option UInt16 :=
  if isHigh u then ([], some u) else ([single u], none)

/-- Reads a unit, with the high surrogate before it if one is waiting for its
other half. -/
def step : Option UInt16 → UInt16 → List Char × Option UInt16
  | none, u => begin u
  | some high, u =>
    if isLow u then ([pair high u], none)
    else (replacement :: (begin u).1, (begin u).2)

/-- The machine that pairs surrogates; its state is the high surrogate that
waits for its other half. -/
def decoder : Transducer (Option UInt16) UInt16 Char where
  start := none
  step := step
  finish waiting := if waiting.isSome then [replacement] else []

/-- The characters of a list of code units. -/
def decode (units : List UInt16) : List Char := decoder.run units

/-! ## The rule on whole lists -/

/-- The characters of a list of code units, one or two units at a time. -/
def chars : List UInt16 → List Char
  | [] => []
  | [u] => [single u]
  | u :: v :: rest =>
    if isHigh u && isLow v then pair u v :: chars rest else single u :: chars (v :: rest)

theorem single_of_isHigh {u : UInt16} (h : isHigh u = true) : single u = replacement := by
  simp [single, h]

/-- The machine follows the rule, whether or not a high surrogate is waiting. -/
theorem emit_eq_chars (units : List UInt16) :
    decoder.emit none units = chars units ∧
      ∀ high, isHigh high = true → decoder.emit (some high) units = chars (high :: units) := by
  induction units with
  | nil =>
    refine ⟨rfl, fun high h => ?_⟩
    simp [Transducer.emit, decoder, chars, single_of_isHigh h]
  | cons u rest ih =>
    obtain ⟨ihNone, ihSome⟩ := ih
    have hnone : decoder.emit none (u :: rest) = chars (u :: rest) := by
      cases hu : isHigh u with
      | true =>
        have hstep : decoder.step none u = ([], some u) := by simp [decoder, step, begin, hu]
        simp [Transducer.emit, hstep, ihSome u hu]
      | false =>
        have hstep : decoder.step none u = ([single u], none) := by simp [decoder, step, begin, hu]
        simp only [Transducer.emit, hstep, ihNone]
        cases rest with
        | nil => simp [chars]
        | cons v rest => simp [chars, hu]
    refine ⟨hnone, fun high h => ?_⟩
    cases hlow : isLow u with
    | true =>
      have hstep : decoder.step (some high) u = ([pair high u], none) := by
        simp [decoder, step, hlow]
      simp [Transducer.emit, hstep, ihNone, chars, h, hlow]
    | false =>
      have hstep : decoder.step (some high) u =
          (replacement :: (decoder.step none u).1, (decoder.step none u).2) := by
        simp [decoder, step, hlow]
      have hrest : decoder.emit (some high) (u :: rest) =
          replacement :: decoder.emit none (u :: rest) := by
        simp [Transducer.emit, hstep]
      rw [hrest, hnone]
      simp [chars, hlow, single_of_isHigh h]

theorem decode_eq_chars (units : List UInt16) : decode units = chars units := by
  rw [decode, Transducer.run_eq_emit]
  exact (emit_eq_chars units).1

end ClassOutline.Text.Utf16
