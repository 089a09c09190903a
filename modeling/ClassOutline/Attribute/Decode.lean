/-
  Attribute/Decode.lean --- attributes as class files spell them.

  The payload is taken whole before the name is looked up, and annotations are
  read from the payload alone.
-/
import ClassOutline.AnnotationUse.Decode
import ClassOutline.Attribute.Basic

set_option autoImplicit false

namespace ClassOutline.Attribute

/-- The annotations of a payload, if its attribute holds any by its name. -/
def annotationsOf (pool : ConstantPool) (name : String) (payload : List UInt8) :
    Except DecodeError (Option (List AnnotationUse)) :=
  if name = annotationsName then (AnnotationUse.ofPayload pool payload).map some else .ok none

/-- Reads an attribute. -/
def decode (pool : ConstantPool) : Decoder Attribute := do
  let nameIndex ← Decoder.word16
  let length ← Decoder.word32
  let payload ← Decoder.bytes length.toNat
  let name ← Decoder.ofExcept (pool.utf8 nameIndex)
  Decoder.remark (.attributeRead name payload.length)
  let annotations ← Decoder.ofExcept (annotationsOf pool name payload)
  return ⟨nameIndex, payload, annotations⟩

/-- Reads a count and as many attributes. -/
def decodeAll (pool : ConstantPool) : Decoder (List Attribute) :=
  Decoder.counted (decode pool)

end ClassOutline.Attribute
