/-
  ClassFile/Basic.lean --- class files and what their indices stand for.

  A class file keeps every reference as an index into its constant pool.  The
  look-ups below can fail only for a class file that was put together by hand: of
  one that was decoded, every index has been looked up before.
-/
import ClassOutline.AccessFlags
import ClassOutline.Attribute.Basic

set_option autoImplicit false

namespace ClassOutline

/-- A field or method. -/
structure Member (d : Declaration) where
  access : AccessFlags d
  nameIndex : UInt16
  descriptorIndex : UInt16
  attributes : List Attribute
  deriving DecidableEq

/-- A class file. -/
structure ClassFile where
  magic : UInt32
  minorVersion : UInt16
  majorVersion : UInt16
  pool : ConstantPool
  access : AccessFlags .type
  thisClass : UInt16
  /-- The index of the superclass, or 0 if there is none. -/
  superClass : UInt16
  interfaces : List UInt16
  fields : List (Member .field)
  methods : List (Member .method)
  attributes : List Attribute
  deriving DecidableEq

/-- The name of a member. -/
def Member.name {d : Declaration} (pool : ConstantPool) (member : Member d) :
    Except DecodeError String :=
  pool.utf8 member.nameIndex

/-- The descriptor of a member. -/
def Member.descriptor {d : Declaration} (pool : ConstantPool) (member : Member d) :
    Except DecodeError String :=
  pool.utf8 member.descriptorIndex

namespace ClassFile

/-- The name of the class. -/
def className (c : ClassFile) : Except DecodeError String := c.pool.className c.thisClass

/-- The name of the superclass, if there is one. -/
def superClassName (c : ClassFile) : Except DecodeError (Option String) :=
  if c.superClass = 0 then .ok none else (c.pool.className c.superClass).map some

/-- The names of the interfaces, or the first failure to look one up. -/
def interfaceNames (c : ClassFile) : Except DecodeError (List String) :=
  c.interfaces.mapM c.pool.className

end ClassFile

/-! ## Kinds of types -/

namespace AccessFlags

/-- Whether a type is an interface and no annotation interface. -/
def isInterface (access : AccessFlags .type) : Bool :=
  access.has .interface && !access.has .annotationType

/-- Whether a type is neither an interface nor an enum. -/
def isClass (access : AccessFlags .type) : Bool :=
  !access.has .interface && !access.has .enum

/-- What can be said of a type by its flags, in a fixed order. -/
def traits (access : AccessFlags .type) : List String :=
  [("interface", access.isInterface), ("annotation", access.has .annotationType),
   ("class", access.isClass), ("enum", access.has .enum), ("abstract", access.has .abstract),
   ("public", access.has .publicAccess), ("final", access.has .final),
   ("synthetic", access.has .synthetic)].filterMap
    fun (word, holds) => if holds then some word else none

end AccessFlags

end ClassOutline
