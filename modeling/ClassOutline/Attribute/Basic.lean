/-
  Attribute/Basic.lean --- the attributes of classes, fields and methods.

  An attribute has a name and an uninterpreted payload.  Of the attribute
  `RuntimeVisibleAnnotations` the payload is also kept as the annotations that it
  spells.
-/
import ClassOutline.AnnotationUse.Basic
import ClassOutline.ConstantPool.Basic

set_option autoImplicit false

namespace ClassOutline

/-- An attribute. -/
structure Attribute where
  nameIndex : UInt16
  payload : List UInt8
  /-- The annotations in the payload, if it holds any by its name. -/
  annotations : Option (List AnnotationUse)
  deriving DecidableEq

/-- The name of the attributes that hold annotations. -/
def annotationsName : String := "RuntimeVisibleAnnotations"

namespace Attribute

/-- The first of the attributes whose name index stands for a name. -/
def find? (pool : ConstantPool) (attributes : List Attribute) (name : String) :
    Option Attribute :=
  attributes.find? fun candidate =>
    match pool.utf8 candidate.nameIndex with
    | .ok found => found == name
    | .error _ => false

/-- The annotations of all the attributes, in order. -/
def allAnnotations (attributes : List Attribute) : List AnnotationUse :=
  attributes.flatMap fun owner => owner.annotations.getD []

end Attribute

end ClassOutline
