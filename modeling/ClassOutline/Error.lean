/-
  Error.lean --- why a class file cannot be decoded or an index not resolved.
-/
import ClassOutline.ConstantPool.Entry

set_option autoImplicit false

namespace ClassOutline

/-- The cause of a failure. -/
inductive DecodeError where
  /-- The input ends before the class file does. -/
  | truncated
  /-- The input does not open with the magic number, but with this one. -/
  | notAClassFile (magic : UInt32)
  /-- A constant pool entry opens with a byte that is no tag. -/
  | unsupportedEntryTag (tag : UInt8)
  /-- An element value opens with a character that is no tag. -/
  | unsupportedValueTag (tag : Char)
  /-- An element value lies deeper than the greatest depth allowed. -/
  | nestedTooDeep (limit : Nat)
  /-- No entry can be found under an index. -/
  | indexOutOfRange (index : UInt16)
  /-- The entry under an index is of another kind than its place demands. -/
  | unexpectedEntry (expected : EntryKind) (found : Entry)
  /-- The source of the bytes failed, for a reason of its own. -/
  | sourceFailed (reason : String)
  deriving DecidableEq, Repr

instance {α : Type} [DecidableEq α] : DecidableEq (Except DecodeError α)
  | .ok a, .ok b => decidable_of_iff (a = b) (by simp)
  | .error e, .error f => decidable_of_iff (e = f) (by simp)
  | .ok _, .error _ => .isFalse (by rintro ⟨⟩)
  | .error _, .ok _ => .isFalse (by rintro ⟨⟩)

/-- A number in upper-case hexadecimal digits. -/
def upperHex (n : Nat) : String := String.ofList ((Nat.toDigits 16 n).map Char.toUpper)

/-- The text of a failure. -/
def DecodeError.message : DecodeError → String
  | .truncated => "Unexpected end of input"
  | .notAClassFile magic => "Invalid magic identifier: 0x" ++ upperHex magic.toNat
  | .unsupportedEntryTag tag => s!"Invalid cp info tag: {tag}"
  | .unsupportedValueTag tag => "Invalid element value tag: " ++ Text.quoteChar tag
  | .nestedTooDeep limit => s!"Annotation nested deeper than {limit} levels"
  | .indexOutOfRange index => s!"Constant pool index out of range: {index}"
  | .unexpectedEntry expected found => s!"Expected {expected.name}, found {found.text}"
  | .sourceFailed reason => reason

end ClassOutline
