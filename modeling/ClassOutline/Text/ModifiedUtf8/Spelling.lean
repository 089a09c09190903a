/-
  Text/ModifiedUtf8/Spelling.lean --- the bytes that spell a text.

  A code unit has up to three forms, of one, two and three bytes, and a reader
  takes any of them.  A writer chooses the shortest one, except that the unit 0
  takes two bytes, so that no spelling of a text contains a zero byte.
-/
import ClassOutline.Text.ModifiedUtf8

set_option autoImplicit false

namespace ClassOutline.Text

/-- The code units of a character: itself, or the two surrogates that stand for
it. -/
def Utf16.ofChar (c : Char) : List UInt16 :=
  if c.toNat < 0x10000 then [UInt16.ofNat c.toNat]
  else
    [UInt16.ofNat (0xD800 + (c.toNat - 0x10000) / 0x400),
     UInt16.ofNat (0xDC00 + (c.toNat - 0x10000) % 0x400)]

/-- The code units of characters. -/
def Utf16.encode (cs : List Char) : List UInt16 := cs.flatMap Utf16.ofChar

namespace ModifiedUtf8

/-! ## Forms -/

/-- The forms of a code unit, by the number of their bytes. -/
inductive Form where
  | one
  | two
  | three
  deriving DecidableEq, Repr

namespace Form

/-- Whether a form has room for a unit. -/
def Holds : Form → UInt16 → Prop
  | .one, u => u < 0x80
  | .two, u => u < 0x800
  | .three, _ => True

instance : (form : Form) → (u : UInt16) → Decidable (form.Holds u)
  | .one, u => inferInstanceAs (Decidable (u < 0x80))
  | .two, u => inferInstanceAs (Decidable (u < 0x800))
  | .three, _ => inferInstanceAs (Decidable True)

/-- The byte that opens a sequence, with the highest bits of a unit. -/
def lead (mark : UInt8) (high : UInt16) : UInt8 := mark ||| high.toUInt8

/-- The byte that continues a sequence, with the lowest six bits of a unit. -/
def continuation (u : UInt16) : UInt8 := 0x80 ||| (u &&& 0x3F).toUInt8

/-- The bytes of a unit in a form. -/
def bytes : Form → UInt16 → List UInt8
  | .one, u => [u.toUInt8]
  | .two, u => [lead 0xC0 (u >>> 6), continuation u]
  | .three, u => [lead 0xE0 (u >>> 12), continuation (u >>> 6), continuation u]

/-- The form that a writer chooses for a unit. -/
def chosen (u : UInt16) : Form :=
  if u ≠ 0 ∧ u < 0x80 then .one else if u < 0x800 then .two else .three

theorem chosen_holds (u : UInt16) : (chosen u).Holds u := by
  unfold chosen
  split
  · rename_i h; exact h.2
  · split
    · rename_i h; exact h
    · trivial

end Form

/-! ## Texts -/

/-- The bytes of units, each in a form of its own. -/
def spelling (units : List (Form × UInt16)) : List UInt8 :=
  units.flatMap fun (form, u) => form.bytes u

/-- The bytes of a text, each unit in the form that a writer chooses. -/
def encode (text : String) : List UInt8 :=
  spelling ((Utf16.encode text.toList).map fun u => (Form.chosen u, u))

example : encode "a\x00é\uFFFD" = [0x61, 0xC0, 0x80, 0xC3, 0xA9, 0xEF, 0xBF, 0xBD] := by
  decide +kernel
example : encode "😀" = [0xED, 0xA0, 0xBD, 0xED, 0xB8, 0x80] := by decide +kernel

end ModifiedUtf8

end ClassOutline.Text
