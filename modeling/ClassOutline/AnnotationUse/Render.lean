/-
  AnnotationUse/Render.lean --- annotations as source text.

  An annotation takes one line, however deep its values nest.  What is shown of
  an index depends on a legend: what the index stands for in the pool, or, if it
  leads nowhere or to an entry of another kind than its place demands, what the
  legend puts in its place.  That is usually `#` and its number.
-/
import ClassOutline.AnnotationUse.Basic
import ClassOutline.ConstantPool.Basic
import ClassOutline.Descriptor

set_option autoImplicit false

namespace ClassOutline

/-! ## Legends -/

/-- How indices are shown: by what they stand for in a pool, or by what is put in
the place of a name or a constant that cannot be shown. -/
structure Legend where
  pool : ConstantPool
  missingName : UInt16 → String
  missingConstant : UInt16 → String

/-- The legend that shows an index as `#` and its number if it cannot be shown
otherwise. -/
def Legend.ofPool (pool : ConstantPool) : Legend := ⟨pool, Entry.indexText, Entry.indexText⟩

/-! ## Names -/

/-- The text that was looked up under an index, or what is shown in its place. -/
def Legend.nameOr (legend : Legend) (index : UInt16) : Except DecodeError String → String
  | .ok text => text
  | .error _ => legend.missingName index

/-- The text under an index. -/
def utf8Text (legend : Legend) (index : UInt16) : String :=
  legend.nameOr index (legend.pool.utf8 index)

/-- The name of the class under an index. -/
def classText (legend : Legend) (index : UInt16) : String :=
  legend.nameOr index (legend.pool.className index)

/-- A field descriptor as source text, or as it is if it spells no type. -/
def fieldTypeText (descriptor : String) : String :=
  match FieldType.parse descriptor with
  | some type => type.text
  | none => descriptor

/-- The field type under an index, as source text. -/
def typeText (legend : Legend) (index : UInt16) : String :=
  fieldTypeText (utf8Text legend index)

/-- A return type as source text. -/
def returnTypeText : Option FieldType → String
  | some type => type.text
  | none => "void"

/-- The class literal of a descriptor. -/
def literalText (descriptor : String) : String :=
  match FieldType.parseReturn descriptor with
  | some returnType => returnTypeText returnType ++ ".class"
  | none => descriptor ++ ".class"

/-! ## Constants -/

/-- A number as a character, if it is the code point of one. -/
def characterText (value : Int32) : String :=
  let code := value.toUInt32.toNat
  if code.isValidChar then Text.quoteChar (Char.ofNat code) else toString value.toInt

/-- The text of a constant, if the entry is of the kind that its tag demands. -/
def constantText? : ConstantKind → Entry → Option String
  | .boolean, .integer value => some (if value = 0 then "false" else "true")
  | .char, .integer value => some (characterText value)
  | .byte, .integer value => some (toString value.toInt)
  | .short, .integer value => some (toString value.toInt)
  | .int, .integer value => some (toString value.toInt)
  | .long, .long value => some (toString value.toInt ++ "L")
  | .float, .float bits => some (Decimal.textOfSingle bits ++ "f")
  | .double, .double bits => some (Decimal.textOfDouble bits)
  | .string, .utf8 text => some (Text.quoteString text)
  | _, _ => none

/-- The text of the constant under an index, or what is shown in its place. -/
def constantText (legend : Legend) (kind : ConstantKind) (index : UInt16) : String :=
  match legend.pool.get index with
  | .ok entry => (constantText? kind entry).getD (legend.missingConstant index)
  | .error _ => legend.missingConstant index

/-! ## Values and annotations -/

/-- Texts between braces. -/
def bracedText (items : List String) : String := "\x7b" ++ ", ".intercalate items ++ "\x7d"

/-- Elements behind the type of their annotation: nothing at all if there are
none. -/
def argumentText : List String → String
  | [] => ""
  | items => "(" ++ ", ".intercalate items ++ ")"

mutual

/-- An element value as source text. -/
def ElementValue.text (legend : Legend) : ElementValue → String
  | .constant kind index => constantText legend kind index
  | .enumConstant typeName constantName =>
    typeText legend typeName ++ "." ++ utf8Text legend constantName
  | .classLiteral index => literalText (utf8Text legend index)
  | .nested value => value.text legend
  | .array values => bracedText (ElementValue.texts legend [] values)

/-- An annotation as source text. -/
def AnnotationUse.text (legend : Legend) : AnnotationUse → String
  | ⟨typeIndex, elements⟩ =>
    "@" ++ typeText legend typeIndex ++ argumentText (Element.texts legend [] elements)

/-- Elements as source text, after those that were written before, last one
first. -/
def Element.texts (legend : Legend) (before : List String) : List Element → List String
  | [] => before.reverse
  | ⟨name, value⟩ :: rest =>
    Element.texts legend ((utf8Text legend name ++ "=" ++ value.text legend) :: before) rest

/-- Element values as source text, after those that were written before, last
one first. -/
def ElementValue.texts (legend : Legend) (before : List String) :
    List ElementValue → List String
  | [] => before.reverse
  | value :: rest => ElementValue.texts legend (value.text legend :: before) rest

end

end ClassOutline
