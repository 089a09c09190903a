/-
  AccessFlags.lean --- the access words of types, fields and methods.

  An access word is a set of flags.  Which bits mean a flag, and which flag a bit
  means, depends on what the word belongs to; the bits that mean nothing there
  are dropped when a word is read.  `modifiers` spells a set of flags as the
  words that open a declaration.
-/
set_option autoImplicit false

namespace ClassOutline

/-! ## Flags -/

/-- The declarations that carry an access word. -/
inductive Declaration where
  /-- A class, interface, annotation interface or enum. -/
  | type
  | field
  | method
  deriving DecidableEq, Repr

/-- The flags of access words. -/
inductive Flag where
  | publicAccess
  | privateAccess
  | protectedAccess
  | static
  | final
  | super
  | synchronized
  | volatile
  | bridge
  | transient
  | varargs
  | native
  | interface
  | abstract
  | strict
  | synthetic
  | annotationType
  | enum
  deriving DecidableEq, Repr

namespace Flag

/-- The bit of a flag.  Three bits are shared by two flags each, of different
declarations. -/
def bit : Flag → UInt16
  | .publicAccess => 0x0001
  | .privateAccess => 0x0002
  | .protectedAccess => 0x0004
  | .static => 0x0008
  | .final => 0x0010
  | .super => 0x0020
  | .synchronized => 0x0020
  | .volatile => 0x0040
  | .bridge => 0x0040
  | .transient => 0x0080
  | .varargs => 0x0080
  | .native => 0x0100
  | .interface => 0x0200
  | .abstract => 0x0400
  | .strict => 0x0800
  | .synthetic => 0x1000
  | .annotationType => 0x2000
  | .enum => 0x4000

/-- The name of a flag. -/
def name : Flag → String
  | .publicAccess => "PUBLIC"
  | .privateAccess => "PRIVATE"
  | .protectedAccess => "PROTECTED"
  | .static => "STATIC"
  | .final => "FINAL"
  | .super => "SUPER"
  | .synchronized => "SYNCHRONIZED"
  | .volatile => "VOLATILE"
  | .bridge => "BRIDGE"
  | .transient => "TRANSIENT"
  | .varargs => "VARARGS"
  | .native => "NATIVE"
  | .interface => "INTERFACE"
  | .abstract => "ABSTRACT"
  | .strict => "STRICT"
  | .synthetic => "SYNTHETIC"
  | .annotationType => "ANNOTATION"
  | .enum => "ENUM"

end Flag

/-- The flags that a declaration may have, by ascending bit. -/
def Declaration.flags : Declaration → List Flag
  | .type =>
    [.publicAccess, .final, .super, .interface, .abstract, .synthetic, .annotationType, .enum]
  | .field =>
    [.publicAccess, .privateAccess, .protectedAccess, .static, .final, .volatile, .transient,
     .synthetic, .enum]
  | .method =>
    [.publicAccess, .privateAccess, .protectedAccess, .static, .final, .synchronized, .bridge,
     .varargs, .native, .abstract, .strict, .synthetic]

/-- The bits that mean a flag of a declaration. -/
def Declaration.mask : Declaration → UInt16
  | .type => 0x7631
  | .field => 0x50DF
  | .method => 0x1DFF

/-! ## Sets of flags -/

/-- A set of flags of a declaration, as a word without meaningless bits. -/
structure AccessFlags (d : Declaration) where
  bits : UInt16
  /-- Every bit of the word means a flag. -/
  bits_and_mask : bits &&& d.mask = bits
  deriving DecidableEq, Repr

namespace AccessFlags

variable {d : Declaration}

/-- The flags in a word; its other bits are dropped. -/
def ofWord (d : Declaration) (word : UInt16) : AccessFlags d where
  bits := word &&& d.mask
  bits_and_mask := by rw [UInt16.and_assoc, UInt16.and_self]

instance : Inhabited (AccessFlags d) := ⟨ofWord d 0⟩

/-- Whether a flag is in the set. -/
def has (access : AccessFlags d) (flag : Flag) : Bool := access.bits &&& flag.bit != 0

/-- The flags in the set, by ascending bit. -/
def toList (access : AccessFlags d) : List Flag := d.flags.filter access.has

/-- The names of the flags in the set, or a remark that there are none. -/
def names (access : AccessFlags d) : String :=
  match access.toList with
  | [] => "(empty)"
  | flags => " | ".intercalate (flags.map Flag.name)

end AccessFlags

/-! ## Modifiers -/

/-- The word for the visibility of a member. -/
def visibility {d : Declaration} (access : AccessFlags d) : String :=
  if access.has .publicAccess then "public"
  else if access.has .privateAccess then "private"
  else if access.has .protectedAccess then "protected"
  else "/* package */"

/-- The words, of a table of flags, whose flag is in a set. -/
def wordsOf {d : Declaration} (access : AccessFlags d) (table : List (Flag × String)) :
    List String :=
  (table.filter fun row => access.has row.1).map Prod.snd

/-- The words before the name of a type.  An interface is neither final nor
abstract in so many words, whatever its flags are, and a final class is not
called abstract. -/
def typeWords (access : AccessFlags .type) : List String :=
  (if access.has .publicAccess then "public" else "/* package */") ::
    wordsOf access [(.synthetic, "/* synthetic */")] ++
    if access.has .interface then
      [if access.has .annotationType then "@interface" else "interface"]
    else
      (if access.has .final then ["final"] else wordsOf access [(.abstract, "abstract")]) ++
        [if access.has .enum then "enum" else "class"]

/-- The words before the type of a field.  A final field is not called
volatile. -/
def fieldWords (access : AccessFlags .field) : List String :=
  visibility access :: wordsOf access [(.static, "static")] ++
    (if access.has .final then ["final"] else wordsOf access [(.volatile, "volatile")]) ++
    wordsOf access
      [(.transient, "transient"), (.synthetic, "/* synthetic */"), (.enum, "/* enum */")]

/-- The words before the return type of a method.  An abstract method is called
nothing else that speaks of its body. -/
def methodWords (access : AccessFlags .method) : List String :=
  visibility access ::
    (if access.has .abstract then ["abstract"]
     else wordsOf access
      [(.static, "static"), (.final, "final"), (.synchronized, "synchronized"),
       (.native, "native"), (.strict, "strict")]) ++
    wordsOf access
      [(.bridge, "/* bridge */"), (.varargs, "/* varargs */"), (.synthetic, "/* synthetic */")]

/-- The words that open a declaration, with a space between them. -/
def AccessFlags.modifiers : {d : Declaration} → AccessFlags d → String
  | .type, access => " ".intercalate (typeWords access)
  | .field, access => " ".intercalate (fieldWords access)
  | .method, access => " ".intercalate (methodWords access)

end ClassOutline
