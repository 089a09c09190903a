/-
  ClassFile/Decode.lean --- reading a class file.

  The parts follow one another without gaps: magic number, versions, constant
  pool, access word, class, superclass, interfaces, fields, methods, attributes.
  Every index is looked up as it is read, so a class file that was decoded holds
  no dangling reference.  Bytes after the last attribute are not looked at.
-/
import ClassOutline.Attribute.Decode
import ClassOutline.ClassFile.Basic
import ClassOutline.ConstantPool.Decode
import ClassOutline.Decoder.Cursor
import ClassOutline.Decoder.Source

set_option autoImplicit false

namespace ClassOutline

/-- The word that every class file opens with. -/
def magicNumber : UInt32 := 0xCAFEBABE

/-- Reads the magic number. -/
def decodeMagic : Decoder UInt32 := do
  let magic ← Decoder.word32
  if magic = magicNumber then return magic else .fail (.notAClassFile magic)

/-- Reads an access word of a declaration. -/
def AccessFlags.decode (d : Declaration) : Decoder (AccessFlags d) := do
  let word ← Decoder.word16
  return .ofWord d word

/-- Reads the index of a class. -/
def decodeClassIndex (pool : ConstantPool) : Decoder UInt16 := do
  let index ← Decoder.word16
  let _ ← Decoder.ofExcept (pool.className index)
  return index

/-- Reads the index of the superclass, which may be 0. -/
def decodeSuperClassIndex (pool : ConstantPool) : Decoder UInt16 := do
  let index ← Decoder.word16
  if index = 0 then
    return index
  else
    let _ ← Decoder.ofExcept (pool.className index)
    return index

/-- Reads a field or method.  Its name and descriptor are looked up when both
were read. -/
def Member.decode (d : Declaration) (pool : ConstantPool) : Decoder (Member d) := do
  let access ← AccessFlags.decode d
  let nameIndex ← Decoder.word16
  let descriptorIndex ← Decoder.word16
  requireUtf8 pool nameIndex
  requireUtf8 pool descriptorIndex
  let attributes ← Attribute.decodeAll pool
  return ⟨access, nameIndex, descriptorIndex, attributes⟩

namespace ClassFile

/-- Reads a class file. -/
def decoder : Decoder ClassFile := do
  let magic ← decodeMagic
  let minorVersion ← Decoder.word16
  let majorVersion ← Decoder.word16
  Decoder.remark (.versionRead majorVersion minorVersion)
  let pool ← ConstantPool.decode
  let access ← AccessFlags.decode .type
  let thisClass ← decodeClassIndex pool
  let superClass ← decodeSuperClassIndex pool
  let interfaces ← Decoder.counted (decodeClassIndex pool)
  let fields ← Decoder.counted (Member.decode .field pool)
  let methods ← Decoder.counted (Member.decode .method pool)
  let attributes ← Attribute.decodeAll pool
  return {
    magic, minorVersion, majorVersion, pool, access, thisClass, superClass, interfaces, fields,
    methods, attributes }

/-- Decodes the class file at the front of a list of bytes. -/
def decode (bytes : List UInt8) : Except DecodeError ClassFile := (decoder.run bytes).result

/-- Decodes one class file after the other from a list of bytes, a number of times
and through one cursor. -/
def decodeEach (times : Nat) (bytes : List UInt8) : List (Except DecodeError ClassFile) :=
  decoder.runRepeatedly times bytes

/-- Decodes the class file that a source delivers. -/
def decodeFrom (source : Source) : Except DecodeError ClassFile := (decoder.runOn source).result

end ClassFile

end ClassOutline
