/-
  ConstantPool/Entry.lean --- the entries of a constant pool.

  An entry is one of fourteen kinds.  A kind has a tag byte, which opens its
  entries in a class file, a name, and a number of pool slots: an entry of 64
  bits takes two, every other one takes one.
-/
import ClassOutline.Decimal.Positional
import ClassOutline.Text.Quoted

set_option autoImplicit false

namespace ClassOutline

/-! ## Kinds -/

/-- The kinds of constant pool entries. -/
inductive EntryKind where
  | utf8
  | integer
  | float
  | long
  | double
  | classRef
  | string
  | fieldRef
  | methodRef
  | interfaceMethodRef
  | nameAndType
  | methodHandle
  | methodType
  | invokeDynamic
  deriving DecidableEq, Repr

namespace EntryKind

/-- Every kind, by ascending tag. -/
def all : List EntryKind :=
  [.utf8, .integer, .float, .long, .double, .classRef, .string, .fieldRef, .methodRef,
   .interfaceMethodRef, .nameAndType, .methodHandle, .methodType, .invokeDynamic]

/-- The byte that opens the entries of a kind. -/
def tag : EntryKind → UInt8
  | .utf8 => 1
  | .integer => 3
  | .float => 4
  | .long => 5
  | .double => 6
  | .classRef => 7
  | .string => 8
  | .fieldRef => 9
  | .methodRef => 10
  | .interfaceMethodRef => 11
  | .nameAndType => 12
  | .methodHandle => 15
  | .methodType => 16
  | .invokeDynamic => 18

/-- The kind whose entries open with a byte. -/
def ofTag? (tag : UInt8) : Option EntryKind := all.find? (·.tag == tag)

@[simp] theorem ofTag?_tag (kind : EntryKind) : ofTag? kind.tag = some kind := by
  cases kind <;> rfl

/-- The name of a kind, as errors give it. -/
def name : EntryKind → String
  | .utf8 => "Utf8"
  | .integer => "Integer"
  | .float => "Float"
  | .long => "Long"
  | .double => "Double"
  | .classRef => "Class"
  | .string => "String"
  | .fieldRef => "FieldRef"
  | .methodRef => "MethodRef"
  | .interfaceMethodRef => "InterfaceMethodRef"
  | .nameAndType => "NameAndType"
  | .methodHandle => "MethodHandle"
  | .methodType => "MethodType"
  | .invokeDynamic => "InvokeDynamic"

/-- Whether the entries of a kind take two slots. -/
def isWide : EntryKind → Bool
  | .long => true
  | .double => true
  | _ => false

/-- The number of slots that an entry of a kind takes. -/
def slotCount (kind : EntryKind) : Nat := if kind.isWide then 2 else 1

end EntryKind

/-- The number of slots that an entry with a tag takes; a tag that belongs to no
kind counts for one. -/
def slotCountOfTag (tag : UInt8) : Nat :=
  match EntryKind.ofTag? tag with
  | some kind => kind.slotCount
  | none => 1

/-! ## Entries -/

/-- A constant pool entry.  Floating-point numbers are kept as their bits, so
that two of them are equal only if they are the same word. -/
inductive Entry where
  | utf8 (text : String)
  | integer (value : Int32)
  | float (bits : UInt32)
  | long (value : Int64)
  | double (bits : UInt64)
  | classRef (name : UInt16)
  | string (text : UInt16)
  | fieldRef (owner member : UInt16)
  | methodRef (owner member : UInt16)
  | interfaceMethodRef (owner member : UInt16)
  | nameAndType (name descriptor : UInt16)
  | methodHandle (referenceKind : UInt8) (reference : UInt16)
  | methodType (descriptor : UInt16)
  | invokeDynamic (bootstrapMethod member : UInt16)
  deriving DecidableEq, Repr

namespace Entry

/-- The kind of an entry. -/
def kind : Entry → EntryKind
  | .utf8 _ => .utf8
  | .integer _ => .integer
  | .float _ => .float
  | .long _ => .long
  | .double _ => .double
  | .classRef _ => .classRef
  | .string _ => .string
  | .fieldRef _ _ => .fieldRef
  | .methodRef _ _ => .methodRef
  | .interfaceMethodRef _ _ => .interfaceMethodRef
  | .nameAndType _ _ => .nameAndType
  | .methodHandle _ _ => .methodHandle
  | .methodType _ => .methodType
  | .invokeDynamic _ _ => .invokeDynamic

/-- Whether an entry takes two slots. -/
def isWide (entry : Entry) : Bool := entry.kind.isWide

/-- The text of a reference to another entry. -/
def indexText (index : UInt16) : String := s!"#{index}"

/-- The text of an entry, on one line. -/
def text : Entry → String
  | .utf8 text => "Utf8 " ++ Text.quoteString text
  | .integer value => s!"Integer {value.toInt}"
  | .float bits => "Float " ++ Decimal.textOfSingle bits
  | .long value => s!"Long {value.toInt}"
  | .double bits => "Double " ++ Decimal.textOfDouble bits
  | .classRef name => "Class " ++ indexText name
  | .string text => "String " ++ indexText text
  | .fieldRef owner member => s!"Fieldref #{owner}.#{member}"
  | .methodRef owner member => s!"Methodref #{owner}.#{member}"
  | .interfaceMethodRef owner member => s!"InterfaceMethodref #{owner}.#{member}"
  | .nameAndType name descriptor => s!"NameAndType #{name}:#{descriptor}"
  | .methodHandle referenceKind reference => s!"MethodHandle {referenceKind}:#{reference}"
  | .methodType descriptor => "MethodType " ++ indexText descriptor
  | .invokeDynamic bootstrapMethod member =>
    s!"InvokeDynamic #{bootstrapMethod}:#{member}"

end Entry

end ClassOutline
