/-
  AnnotationUse/Decode.lean --- annotations as class files spell them.

  An element value opens with its tag.  A value of an outermost annotation lies
  at depth 1, and an item of an array or a value of an annotation in a value one
  deeper than what holds it.  A value deeper than `maxDepth` is refused before a
  byte of it is read.  Every index is looked up as soon as the group of indices
  that it stands in was read.
-/
import ClassOutline.AnnotationUse.Basic
import ClassOutline.ConstantPool.Basic
import ClassOutline.Decoder.Basic

set_option autoImplicit false

namespace ClassOutline

/-- The greatest depth of an element value. -/
def maxDepth : Nat := 64

/-- The character that a tag byte stands for. -/
def tagChar (tag : UInt8) : Char := Char.ofNat tag.toNat

/-- Fails unless a text can be found under an index. -/
def requireUtf8 (pool : ConstantPool) (index : UInt16) : Decoder Unit := do
  let _ ← Decoder.ofExcept (pool.utf8 index)
  return ()

/-- Reads the index of a text. -/
def decodeUtf8Index (pool : ConstantPool) : Decoder UInt16 := do
  let index ← Decoder.word16
  requireUtf8 pool index
  return index

/-- Reads an element whose value is read by `value`. -/
def Element.decode (pool : ConstantPool) (value : Decoder ElementValue) : Decoder Element := do
  let name ← decodeUtf8Index pool
  let v ← value
  return ⟨name, v⟩

/-- Reads an annotation whose element values are read by `value`. -/
def AnnotationUse.decodeWith (pool : ConstantPool) (value : Decoder ElementValue) :
    Decoder AnnotationUse := do
  let typeIndex ← decodeUtf8Index pool
  let elements ← Decoder.counted (Element.decode pool value)
  return ⟨typeIndex, elements⟩

/-- Reads a constant whose tag was read. -/
def ElementValue.decodeConstant (pool : ConstantPool) (tag : Char) : Decoder ElementValue :=
  match ConstantKind.ofTag? tag with
  | some kind => do
    let index ← Decoder.word16
    let _ ← Decoder.ofExcept (pool.get index)
    return .constant kind index
  | none => .fail (.unsupportedValueTag tag)

/-- Reads what follows the tag of an element value; the values in it are read by
`value`. -/
def ElementValue.decodeContent (pool : ConstantPool) (value : Decoder ElementValue) :
    (tag : Char) → Decoder ElementValue
  | 'e' => do
    let typeName ← Decoder.word16
    let constantName ← Decoder.word16
    requireUtf8 pool typeName
    requireUtf8 pool constantName
    return .enumConstant typeName constantName
  | 'c' => do
    let index ← decodeUtf8Index pool
    return .classLiteral index
  | '@' => do
    let use ← AnnotationUse.decodeWith pool value
    return .nested use
  | '[' => do
    let values ← Decoder.counted value
    return .array values
  | tag => ElementValue.decodeConstant pool tag

/-- Reads an element value that may nest `depth` values, itself counted. -/
def ElementValue.decode (pool : ConstantPool) : (depth : Nat) → Decoder ElementValue
  | 0 => .fail (.nestedTooDeep maxDepth)
  | depth + 1 => do
    let tag ← Decoder.byte
    ElementValue.decodeContent pool (ElementValue.decode pool depth) (tagChar tag)

/-- Reads the annotations of a payload. -/
def AnnotationUse.decodeAll (pool : ConstantPool) : Decoder (List AnnotationUse) :=
  Decoder.counted (AnnotationUse.decodeWith pool (ElementValue.decode pool maxDepth))

/-- The annotations that a payload spells.  Bytes after them do not count. -/
def AnnotationUse.ofPayload (pool : ConstantPool) (payload : List UInt8) :
    Except DecodeError (List AnnotationUse) :=
  ((AnnotationUse.decodeAll pool).run payload).result

end ClassOutline
