/-
  ConstantPool/Spelling.lean --- the bytes that spell a constant pool.

  An entry is its tag and its content.  Only a text leaves a choice, namely any
  bytes that decode to it.  A pool is its count and its entries; a filler has no
  bytes, so a pool can be read back only if its fillers stand where reading puts
  them.
-/
import ClassOutline.ConstantPool.Basic
import ClassOutline.Spelling
import ClassOutline.Text.ModifiedUtf8

set_option autoImplicit false

namespace ClassOutline

/-! ## Entries -/

namespace Entry

/-- The bytes of an entry behind its tag.  Those of a text, which has many
spellings, are given; other entries take no notice of them. -/
def body (textBytes : List UInt8) : Entry → List UInt8
  | .utf8 _ => Bytes.ofNat 2 textBytes.length ++ textBytes
  | .integer value => Bytes.ofWord32 value.toUInt32
  | .float bits => Bytes.ofWord32 bits
  | .long value => Bytes.ofWord64 value.toUInt64
  | .double bits => Bytes.ofWord64 bits
  | .classRef name => Bytes.ofWord16 name
  | .string text => Bytes.ofWord16 text
  | .fieldRef owner member => Bytes.ofWord16 owner ++ Bytes.ofWord16 member
  | .methodRef owner member => Bytes.ofWord16 owner ++ Bytes.ofWord16 member
  | .interfaceMethodRef owner member => Bytes.ofWord16 owner ++ Bytes.ofWord16 member
  | .nameAndType name descriptor => Bytes.ofWord16 name ++ Bytes.ofWord16 descriptor
  | .methodHandle referenceKind reference => referenceKind :: Bytes.ofWord16 reference
  | .methodType descriptor => Bytes.ofWord16 descriptor
  | .invokeDynamic bootstrapMethod member =>
    Bytes.ofWord16 bootstrapMethod ++ Bytes.ofWord16 member

/-- Whether bytes may stand for the text of an entry: they decode to it, and 16
bits can count them. -/
def SpelledBy (textBytes : List UInt8) : Entry → Prop
  | .utf8 text => textBytes.length < 0x10000 ∧ Text.ModifiedUtf8.decode textBytes = text
  | _ => True

instance (textBytes : List UInt8) (entry : Entry) : Decidable (entry.SpelledBy textBytes) :=
  match entry with
  | .utf8 _ => inferInstanceAs (Decidable (_ ∧ _))
  | .integer _ | .float _ | .long _ | .double _ | .classRef _ | .string _ | .fieldRef _ _
  | .methodRef _ _ | .interfaceMethodRef _ _ | .nameAndType _ _ | .methodHandle _ _
  | .methodType _ | .invokeDynamic _ _ => .isTrue trivial

/-- The bytes of an entry. -/
def spelling (textBytes : List UInt8) (entry : Entry) : List UInt8 :=
  entry.kind.tag :: entry.body textBytes

end Entry

/-! ## Pools -/

namespace ConstantPool

/-- Whether a slot is the one after an entry of 64 bits. -/
def FollowsWide (pool : ConstantPool) (i : Nat) : Prop :=
  ∃ j entry, i = j + 1 ∧ pool.slots[j]? = some (some entry) ∧ entry.isWide = true

/-- Whether fillers stand after the entries of 64 bits, where there is a slot
left, and nowhere else. -/
def FillersPlaced (pool : ConstantPool) : Prop :=
  ∀ i < pool.slots.size, pool.slots[i]? = some none ↔ pool.FollowsWide i

/-- The bytes of a slot; a filler has none. -/
def slotSpelling (textBytes : List UInt8) : Option Entry → List UInt8
  | some entry => entry.spelling textBytes
  | none => []

/-- The bytes of a pool, given those of the text in each slot. -/
def spelling (textBytes : Nat → List UInt8) (pool : ConstantPool) : List UInt8 :=
  Bytes.ofNat 2 pool.count ++
    (pool.slots.toList.mapIdx fun i slot => slotSpelling (textBytes i) slot).flatten

/-- Whether bytes may stand for the texts of a pool, slot by slot. -/
def SpelledBy (textBytes : Nat → List UInt8) (pool : ConstantPool) : Prop :=
  ∀ (i : Nat) (entry : Entry), pool.slots[i]? = some (some entry) → entry.SpelledBy (textBytes i)

theorem spelledBy_iff_forall_fin {textBytes : Nat → List UInt8} {pool : ConstantPool} :
    pool.SpelledBy textBytes ↔
      ∀ i : Fin pool.slots.size, ∀ entry ∈ pool.slots[i], entry.SpelledBy (textBytes i) := by
  constructor
  · intro h i entry hentry
    refine h i entry ?_
    rw [Array.getElem?_eq_getElem i.isLt]
    exact congrArg some hentry
  · intro h i entry hentry
    obtain ⟨hi, hslot⟩ := Array.getElem?_eq_some_iff.mp hentry
    exact h ⟨i, hi⟩ entry hslot

instance (textBytes : Nat → List UInt8) (pool : ConstantPool) :
    Decidable (pool.SpelledBy textBytes) :=
  decidable_of_iff _ spelledBy_iff_forall_fin.symm

end ConstantPool

end ClassOutline
