/-
  ConstantPool/Basic.lean --- the table that the rest of a class file points into.

  Slots are numbered from 1.  A slot may be a filler: the second half of a
  64-bit entry, which no index may name.
-/
import ClassOutline.Error

set_option autoImplicit false

namespace ClassOutline

/-- A constant pool: the content of slot 1, of slot 2 and so on, `none` for a
filler. -/
structure ConstantPool where
  slots : Array (Option Entry)
  deriving DecidableEq, Repr

namespace ConstantPool

instance : Inhabited ConstantPool := ⟨⟨#[]⟩⟩

/-- The count that a class file declares for the pool: one more than its slots. -/
def count (pool : ConstantPool) : Nat := pool.slots.size + 1

/-- The entry in a slot, if the slot exists and is no filler. -/
def entry? (pool : ConstantPool) (index : UInt16) : Option Entry :=
  if index = 0 then none else pool.slots[index.toNat - 1]?.join

/-- The entry under an index. -/
def get (pool : ConstantPool) (index : UInt16) : Except DecodeError Entry :=
  match pool.entry? index with
  | some entry => .ok entry
  | none => .error (.indexOutOfRange index)

/-- The entry under an index, which has to be of a given kind. -/
def getOfKind (pool : ConstantPool) (kind : EntryKind) (index : UInt16) :
    Except DecodeError Entry :=
  match pool.get index with
  | .ok entry => if entry.kind = kind then .ok entry else .error (.unexpectedEntry kind entry)
  | .error e => .error e

/-- The text under an index. -/
def utf8 (pool : ConstantPool) (index : UInt16) : Except DecodeError String :=
  match pool.get index with
  | .ok (.utf8 text) => .ok text
  | .ok entry => .error (.unexpectedEntry .utf8 entry)
  | .error e => .error e

/-- The name of the class under an index. -/
def className (pool : ConstantPool) (index : UInt16) : Except DecodeError String :=
  match pool.get index with
  | .ok (.classRef name) => pool.utf8 name
  | .ok entry => .error (.unexpectedEntry .classRef entry)
  | .error e => .error e

/-! ## Enumeration -/

/-- The entries with their indices, in order. -/
def entries (pool : ConstantPool) : List (UInt16 × Entry) :=
  pool.slots.toList.zipIdx.filterMap fun (slot, i) =>
    slot.map fun entry => (UInt16.ofNat (i + 1), entry)

/-- The text of each slot, in order. -/
def slotTexts (pool : ConstantPool) : List String :=
  pool.slots.toList.map fun
    | some entry => entry.text
    | none => "(unusable)"

/-- What is said of an entry under an index. -/
def entryLine (index : Nat) (entry : Entry) : String := s!"#{index} = {entry.text}"

/-- One line for each entry, in order, each ended by a newline. -/
def dump (pool : ConstantPool) : String :=
  String.join (pool.entries.map fun (index, entry) => entryLine index.toNat entry ++ "\n")

end ConstantPool

end ClassOutline
