/-
  ClassFile/Spelling.lean --- the bytes that spell a class file.

  The parts of a class file follow one another without gaps, numbers most
  significant byte first.  Two things leave a choice, and a `Latitude` makes it:
  the meaningless bits of an access word, and the bytes of a text in the pool.
-/
import ClassOutline.ClassFile.Basic
import ClassOutline.ConstantPool.Spelling

set_option autoImplicit false

namespace ClassOutline

/-! ## Access words -/

/-- Bits laid into the gaps of a mask do not show through it. -/
theorem or_and_not_and {bits mask : UInt16} (h : bits &&& mask = bits) (spare : UInt16) :
    (bits ||| (spare &&& ~~~mask)) &&& mask = bits := by
  apply UInt16.toBitVec_inj.mp
  have hbits : bits.toBitVec &&& mask.toBitVec = bits.toBitVec := congrArg UInt16.toBitVec h
  ext i hi
  have hbit : (bits.toBitVec[i] && mask.toBitVec[i]) = bits.toBitVec[i] := by
    rw [← BitVec.getElem_and, hbits]
  simp only [UInt16.toBitVec_and, UInt16.toBitVec_or, UInt16.toBitVec_not, BitVec.getElem_and,
    BitVec.getElem_or, BitVec.getElem_not]
  cases hb : bits.toBitVec[i] <;> cases hm : mask.toBitVec[i] <;> simp_all

/-- A word is what a mask shows of it together with what the gaps show. -/
theorem and_or_and_not (word mask : UInt16) : (word &&& mask) ||| (word &&& ~~~mask) = word := by
  apply UInt16.toBitVec_inj.mp
  ext i hi
  simp only [UInt16.toBitVec_and, UInt16.toBitVec_or, UInt16.toBitVec_not, BitVec.getElem_and,
    BitVec.getElem_or, BitVec.getElem_not]
  cases word.toBitVec[i] <;> cases mask.toBitVec[i] <;> rfl

namespace AccessFlags

variable {d : Declaration}

/-- The access word of a set of flags, with the bits of `spare` where a bit means
nothing. -/
def word (spare : UInt16) (access : AccessFlags d) : UInt16 :=
  access.bits ||| (spare &&& ~~~d.mask)

theorem ofWord_word (spare : UInt16) (access : AccessFlags d) :
    ofWord d (access.word spare) = access := by
  obtain ⟨bits, hbits⟩ := access
  simp only [ofWord, word, AccessFlags.mk.injEq]
  exact or_and_not_and hbits spare

theorem word_ofWord (word : UInt16) : (ofWord d word).word word = word :=
  and_or_and_not word d.mask

end AccessFlags

/-! ## Attributes -/

namespace Attribute

/-- The bytes of an attribute: its name, a length of 32 bits and the payload. -/
def spelling (a : Attribute) : List UInt8 :=
  Bytes.ofWord16 a.nameIndex ++ Bytes.ofNat 4 a.payload.length ++ a.payload

/-- The bytes of attributes behind their count. -/
def spellings (attributes : List Attribute) : List UInt8 :=
  Bytes.ofNat 2 attributes.length ++ attributes.flatMap spelling

/-- Whether the number of attributes and the lengths of their payloads can be
written down. -/
def AllFit (attributes : List Attribute) : Prop :=
  attributes.length < 0x10000 ∧ ∀ a ∈ attributes, a.payload.length < 0x100000000

instance (attributes : List Attribute) : Decidable (AllFit attributes) :=
  inferInstanceAs (Decidable (_ ∧ _))

end Attribute

/-! ## Members -/

namespace Member

variable {d : Declaration}

/-- The bytes of a field or method. -/
def spelling (spare : UInt16) (member : Member d) : List UInt8 :=
  Bytes.ofWord16 (member.access.word spare) ++ Bytes.ofWord16 member.nameIndex ++
    Bytes.ofWord16 member.descriptorIndex ++ Attribute.spellings member.attributes

/-- The bytes of fields or methods behind their count. -/
def spellings (spare : Nat → UInt16) (members : List (Member d)) : List UInt8 :=
  Bytes.ofNat 2 members.length ++ (members.mapIdx fun i member => member.spelling (spare i)).flatten

/-- Whether the numbers of members and of their attributes can be written
down. -/
def AllFit (members : List (Member d)) : Prop :=
  members.length < 0x10000 ∧ ∀ member ∈ members, Attribute.AllFit member.attributes

instance (members : List (Member d)) : Decidable (AllFit members) :=
  inferInstanceAs (Decidable (_ ∧ _))

end Member

/-! ## Class files -/

/-- What a class file may say in more than one way: the bits of its access words
that mean nothing, by the position of the member, and the bytes of its texts, by
the position of the slot. -/
structure Latitude where
  typeBits : UInt16
  fieldBits : Nat → UInt16
  methodBits : Nat → UInt16
  textBytes : Nat → List UInt8

namespace ClassFile

/-- The bytes of a class file. -/
def spelling (latitude : Latitude) (c : ClassFile) : List UInt8 :=
  Bytes.ofWord32 c.magic ++ Bytes.ofWord16 c.minorVersion ++ Bytes.ofWord16 c.majorVersion ++
    c.pool.spelling latitude.textBytes ++ Bytes.ofWord16 (c.access.word latitude.typeBits) ++
    Bytes.ofWord16 c.thisClass ++ Bytes.ofWord16 c.superClass ++
    (Bytes.ofNat 2 c.interfaces.length ++ c.interfaces.flatMap Bytes.ofWord16) ++
    Member.spellings latitude.fieldBits c.fields ++
    Member.spellings latitude.methodBits c.methods ++ Attribute.spellings c.attributes

/-- Whether every count and length of a class file can be written down. -/
structure Fits (c : ClassFile) : Prop where
  slots : c.pool.slots.size ≤ 65534
  interfaces : c.interfaces.length < 0x10000
  fields : Member.AllFit c.fields
  methods : Member.AllFit c.methods
  attributes : Attribute.AllFit c.attributes

end ClassFile

end ClassOutline
