/-
  ConstantPool/Decode.lean --- the constant pool of a class file.

  The pool opens with a 16-bit count, one more than its slots.  Entries follow
  until every slot is filled.  An entry of 64 bits fills the slot after its own
  too, unless its own is the last one.
-/
import ClassOutline.ConstantPool.Basic
import ClassOutline.Decoder.Basic
import ClassOutline.Text.ModifiedUtf8

set_option autoImplicit false

namespace ClassOutline

/-- Reads what follows the tag of an entry. -/
def EntryKind.decodeBody : EntryKind → Decoder Entry
  | .utf8 => do
    let length ← Decoder.word16
    let bytes ← Decoder.bytes length.toNat
    return .utf8 (Text.ModifiedUtf8.decode bytes)
  | .integer => do return .integer (← Decoder.word32).toInt32
  | .float => do return .float (← Decoder.word32)
  | .long => do return .long (← Decoder.word64).toInt64
  | .double => do return .double (← Decoder.word64)
  | .classRef => do return .classRef (← Decoder.word16)
  | .string => do return .string (← Decoder.word16)
  | .fieldRef => do
    let owner ← Decoder.word16
    let member ← Decoder.word16
    return .fieldRef owner member
  | .methodRef => do
    let owner ← Decoder.word16
    let member ← Decoder.word16
    return .methodRef owner member
  | .interfaceMethodRef => do
    let owner ← Decoder.word16
    let member ← Decoder.word16
    return .interfaceMethodRef owner member
  | .nameAndType => do
    let name ← Decoder.word16
    let descriptor ← Decoder.word16
    return .nameAndType name descriptor
  | .methodHandle => do
    let referenceKind ← Decoder.byte
    let reference ← Decoder.word16
    return .methodHandle referenceKind reference
  | .methodType => do return .methodType (← Decoder.word16)
  | .invokeDynamic => do
    let bootstrapMethod ← Decoder.word16
    let member ← Decoder.word16
    return .invokeDynamic bootstrapMethod member

/-- Reads an entry. -/
def Entry.decode : Decoder Entry := do
  let tag ← Decoder.byte
  match EntryKind.ofTag? tag with
  | some kind => kind.decodeBody
  | none => .fail (.unsupportedEntryTag tag)

namespace ConstantPool

/-- Reads entries until `free` more slots are filled, after the `filled` slots
that were filled before, last one first.  Each entry is remarked on under the
index of its slot. -/
def decodeSlots : (free filled : Nat) → (before : List (Option Entry)) →
    Decoder (List (Option Entry))
  | 0, _, before => .done before.reverse
  | 1, filled, before => do
    let entry ← Entry.decode
    Decoder.remark (.entryRead (filled + 1) entry)
    return (some entry :: before).reverse
  | free + 2, filled, before => do
    let entry ← Entry.decode
    Decoder.remark (.entryRead (filled + 1) entry)
    if entry.isWide then decodeSlots free (filled + 2) (none :: some entry :: before)
    else decodeSlots (free + 1) (filled + 1) (some entry :: before)

/-- Reads a constant pool. -/
def decode : Decoder ConstantPool := do
  let count ← Decoder.word16
  let slots ← decodeSlots (count.toNat - 1) 0 []
  return ⟨slots.toArray⟩

end ConstantPool

end ClassOutline
