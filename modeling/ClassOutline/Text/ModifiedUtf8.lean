/-
  Text/ModifiedUtf8.lean --- the text encoding of class files.

  Each 16-bit code unit of a text is written as one, two or three bytes, so a
  supplementary character takes two three-byte sequences, one per surrogate.
  Reading never fails.  A sequence that is cut short, by a byte that does not
  continue it or by the end of the input, yields U+FFFD once, and the byte that
  cut it short is then read in its own right.  A continuation byte outside a
  sequence and a byte from F0 on yield U+FFFD each.
-/
import ClassOutline.Text.Utf16

set_option autoImplicit false

namespace ClassOutline.Text.ModifiedUtf8

/-! ## The machine -/

/-- What the bytes read so far still ask for. -/
inductive Pending where
  /-- No sequence is open. -/
  | nothing
  /-- One continuation byte is to come after these bits. -/
  | one (bits : UInt16)
  /-- Two continuation bytes are to come after these bits. -/
  | two (bits : UInt16)
  deriving DecidableEq, Repr

/-- The code unit that stands in for a malformed sequence. -/
def replacement : UInt16 := 0xFFFD

/-- Whether a byte continues a sequence. -/
def isContinuation (b : UInt8) : Bool := 0x80 ≤ b && b < 0xC0

/-- The bits so far, and the six bits of a continuation byte after them. -/
def extend (bits : UInt16) (b : UInt8) : UInt16 := (bits <<< 6) ||| (b &&& 0x3F).toUInt16

/-- Reads a byte where no sequence is open. -/
def begin (b : UInt8) : List UInt16 × Pending :=
  if b < 0x80 then ([b.toUInt16], .nothing)
  else if b < 0xC0 then ([replacement], .nothing)
  else if b < 0xE0 then ([], .one (b &&& 0x1F).toUInt16)
  else if b < 0xF0 then ([], .two (b &&& 0x0F).toUInt16)
  else ([replacement], .nothing)

/-- Reads a byte that does not continue the open sequence: the sequence is given
up and the byte begins anew. -/
def giveUp (b : UInt8) : List UInt16 × Pending :=
  (replacement :: (begin b).1, (begin b).2)

/-- Reads a byte. -/
def step : Pending → UInt8 → List UInt16 × Pending
  | .nothing, b => begin b
  | .one bits, b => if isContinuation b then ([extend bits b], .nothing) else giveUp b
  | .two bits, b => if isContinuation b then ([], .one (extend bits b)) else giveUp b

/-- What the end of the input writes: an open sequence is given up. -/
def Pending.atEnd : Pending → List UInt16
  | .nothing => []
  | .one _ => [replacement]
  | .two _ => [replacement]

/-- The machine that folds bytes into code units. -/
def unitReader : Transducer Pending UInt8 UInt16 where
  start := .nothing
  step := step
  finish := Pending.atEnd

/-! ## Decoding -/

/-- The code units that bytes spell. -/
def units (bytes : List UInt8) : List UInt16 := unitReader.run bytes

/-- The text that bytes spell. -/
def decode (bytes : List UInt8) : String := String.ofList (Utf16.decode (units bytes))

end ClassOutline.Text.ModifiedUtf8
