/-
  ClassFile/References.lean --- every index of a class file, in the order of the file.

  The references of a class file are those that reading it looks up: the class,
  its superclass if there is one, the interfaces, and of every field and method
  the name, the descriptor and what its attributes refer to.  An attribute refers
  to its name and to what its annotations refer to.
-/
import ClassOutline.ClassFile.Basic
import ClassOutline.ConstantPool.Reference

set_option autoImplicit false

namespace ClassOutline

/-! ## Annotations -/

mutual

/-- The references of an element value. -/
def ElementValue.references : ElementValue → List Reference
  | .constant _ index => [⟨.anyEntry, index⟩]
  | .enumConstant typeName constantName => [⟨.text, typeName⟩, ⟨.text, constantName⟩]
  | .classLiteral index => [⟨.text, index⟩]
  | .nested value => value.references
  | .array values => ElementValue.allReferences values

/-- The references of an annotation: its type, and then its elements. -/
def AnnotationUse.references : AnnotationUse → List Reference
  | ⟨typeIndex, elements⟩ => ⟨.text, typeIndex⟩ :: Element.allReferences elements

/-- The references of elements: each one's name, and then its value. -/
def Element.allReferences : List Element → List Reference
  | [] => []
  | ⟨name, value⟩ :: rest => ⟨.text, name⟩ :: (value.references ++ Element.allReferences rest)

/-- The references of element values. -/
def ElementValue.allReferences : List ElementValue → List Reference
  | [] => []
  | value :: rest => value.references ++ ElementValue.allReferences rest

end

theorem ElementValue.allReferences_eq (values : List ElementValue) :
    ElementValue.allReferences values = values.flatMap ElementValue.references := by
  induction values with
  | nil => rfl
  | cons value rest ih => simp [ElementValue.allReferences, ih]

theorem Element.allReferences_eq (elements : List Element) :
    Element.allReferences elements =
      elements.flatMap fun e => ⟨.text, e.name⟩ :: e.value.references := by
  induction elements with
  | nil => rfl
  | cons e rest ih =>
    obtain ⟨name, value⟩ := e
    simp [Element.allReferences, ih]

/-! ## Class files -/

/-- The references of an attribute. -/
def Attribute.references (a : Attribute) : List Reference :=
  ⟨.text, a.nameIndex⟩ :: (a.annotations.getD []).flatMap AnnotationUse.references

/-- The references of a field or method. -/
def Member.references {d : Declaration} (member : Member d) : List Reference :=
  ⟨.text, member.nameIndex⟩ :: ⟨.text, member.descriptorIndex⟩ ::
    member.attributes.flatMap Attribute.references

namespace ClassFile

/-- The references of a class file, in the order of the file. -/
def references (c : ClassFile) : List Reference :=
  [⟨.className, c.thisClass⟩] ++ (if c.superClass = 0 then [] else [⟨.className, c.superClass⟩]) ++
    c.interfaces.map (⟨.className, ·⟩) ++ c.fields.flatMap Member.references ++
    c.methods.flatMap Member.references ++ c.attributes.flatMap Attribute.references

/-- Every attribute of a class file: those of its fields, of its methods, and its
own. -/
def everyAttribute (c : ClassFile) : List Attribute :=
  c.fields.flatMap Member.attributes ++ c.methods.flatMap Member.attributes ++ c.attributes

end ClassFile

/-! ## Look-ups

Which references reading looks up is told by names and payloads alone: those of
annotations are looked up where the name of an attribute says that its payload
holds some, and `carried` gives the annotations that a payload spells. -/

/-- Whether the name of an attribute says that its payload holds annotations. -/
def Attribute.HoldsAnnotations (pool : ConstantPool) (a : Attribute) : Prop :=
  pool.utf8 a.nameIndex = .ok annotationsName

instance (pool : ConstantPool) (a : Attribute) : Decidable (a.HoldsAnnotations pool) :=
  inferInstanceAs (Decidable (_ = _))

section LookUps

variable (pool : ConstantPool) (carried : List UInt8 → List AnnotationUse)

/-- The references that reading an attribute looks up: its name, and then those of
the annotations in its payload. -/
def Attribute.lookUps (a : Attribute) : List Reference :=
  ⟨.text, a.nameIndex⟩ ::
    if a.HoldsAnnotations pool then (carried a.payload).flatMap AnnotationUse.references else []

/-- The references that reading a field or method looks up. -/
def Member.lookUps {d : Declaration} (member : Member d) : List Reference :=
  ⟨.text, member.nameIndex⟩ :: ⟨.text, member.descriptorIndex⟩ ::
    member.attributes.flatMap (Attribute.lookUps pool carried)

end LookUps

/-- The references that reading a class file looks up, in the order of the file. -/
def ClassFile.lookUps (carried : List UInt8 → List AnnotationUse) (c : ClassFile) :
    List Reference :=
  [⟨.className, c.thisClass⟩] ++ (if c.superClass = 0 then [] else [⟨.className, c.superClass⟩]) ++
    c.interfaces.map (⟨.className, ·⟩) ++ c.fields.flatMap (Member.lookUps c.pool carried) ++
    c.methods.flatMap (Member.lookUps c.pool carried) ++
    c.attributes.flatMap (Attribute.lookUps c.pool carried)

end ClassOutline
