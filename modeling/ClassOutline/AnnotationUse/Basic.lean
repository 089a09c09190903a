/-
  AnnotationUse/Basic.lean --- annotations and the values of their elements.

  Annotations, their elements and the element values contain one another, so the
  three types are defined together.  All references into the constant pool are
  kept as indices.
-/
set_option autoImplicit false

namespace ClassOutline

/-! ## Constants -/

/-- What a constant element value is a constant of. -/
inductive ConstantKind where
  | byte
  | char
  | double
  | float
  | int
  | long
  | short
  | boolean
  | string
  deriving DecidableEq, Repr

namespace ConstantKind

/-- Every kind of constant. -/
def all : List ConstantKind :=
  [.byte, .char, .double, .float, .int, .long, .short, .boolean, .string]

/-- The character that opens constants of a kind. -/
def tag : ConstantKind → Char
  | .byte => 'B'
  | .char => 'C'
  | .double => 'D'
  | .float => 'F'
  | .int => 'I'
  | .long => 'J'
  | .short => 'S'
  | .boolean => 'Z'
  | .string => 's'

/-- The kind of the constants that open with a character. -/
def ofTag? (tag : Char) : Option ConstantKind := all.find? (·.tag == tag)

@[simp] theorem ofTag?_tag (kind : ConstantKind) : ofTag? kind.tag = some kind := by
  cases kind <;> rfl

/-- The name of a kind of constant. -/
def name : ConstantKind → String
  | .byte => "Byte"
  | .char => "Char"
  | .double => "Double"
  | .float => "Float"
  | .int => "Int"
  | .long => "Long"
  | .short => "Short"
  | .boolean => "Boolean"
  | .string => "String"

end ConstantKind

/-! ## Values and annotations -/

mutual

/-- The value of an annotation element. -/
inductive ElementValue where
  /-- A constant of the pool. -/
  | constant (kind : ConstantKind) (index : UInt16)
  /-- An enum constant, by the names of its type and its own. -/
  | enumConstant (typeName constantName : UInt16)
  /-- A class literal. -/
  | classLiteral (index : UInt16)
  /-- An annotation in an annotation. -/
  | nested (value : AnnotationUse)
  | array (values : List ElementValue)

/-- An element of an annotation: its name and its value. -/
structure Element where
  name : UInt16
  value : ElementValue

/-- A use of an annotation interface: the type of the interface and the elements
in order. -/
structure AnnotationUse where
  typeIndex : UInt16
  elements : List Element

end

instance : Inhabited ElementValue := ⟨.array []⟩
instance : Inhabited AnnotationUse := ⟨⟨0, []⟩⟩

/-! ## Equality -/

mutual

/-- Whether two element values are the same, by recursion on both. -/
def ElementValue.same : ElementValue → ElementValue → Bool
  | .constant kind index, .constant kind' index' => kind == kind' && index == index'
  | .enumConstant typeName name, .enumConstant typeName' name' =>
    typeName == typeName' && name == name'
  | .classLiteral index, .classLiteral index' => index == index'
  | .nested value, .nested value' => value.same value'
  | .array values, .array values' => ElementValue.sameAll values values'
  | _, _ => false

/-- Whether two annotations are the same. -/
def AnnotationUse.same : AnnotationUse → AnnotationUse → Bool
  | ⟨typeIndex, elements⟩, ⟨typeIndex', elements'⟩ =>
    typeIndex == typeIndex' && Element.sameAll elements elements'

/-- Whether two lists of elements are the same. -/
def Element.sameAll : List Element → List Element → Bool
  | [], [] => true
  | ⟨name, value⟩ :: rest, ⟨name', value'⟩ :: rest' =>
    name == name' && value.same value' && Element.sameAll rest rest'
  | _, _ => false

/-- Whether two lists of element values are the same. -/
def ElementValue.sameAll : List ElementValue → List ElementValue → Bool
  | [], [] => true
  | value :: rest, value' :: rest' => value.same value' && ElementValue.sameAll rest rest'
  | _, _ => false

end

mutual

theorem ElementValue.same_self : ∀ v : ElementValue, v.same v = true
  | .constant _ _ => by simp [ElementValue.same]
  | .enumConstant _ _ => by simp [ElementValue.same]
  | .classLiteral _ => by simp [ElementValue.same]
  | .nested value => by simp [ElementValue.same, AnnotationUse.same_self value]
  | .array values => by simp [ElementValue.same, ElementValue.sameAll_self values]

theorem AnnotationUse.same_self : ∀ a : AnnotationUse, a.same a = true
  | ⟨_, elements⟩ => by simp [AnnotationUse.same, Element.sameAll_self elements]

theorem Element.sameAll_self : ∀ l : List Element, Element.sameAll l l = true
  | [] => by simp [Element.sameAll]
  | ⟨_, value⟩ :: rest => by
    simp [Element.sameAll, ElementValue.same_self value, Element.sameAll_self rest]

theorem ElementValue.sameAll_self : ∀ l : List ElementValue, ElementValue.sameAll l l = true
  | [] => by simp [ElementValue.sameAll]
  | value :: rest => by
    simp [ElementValue.sameAll, ElementValue.same_self value, ElementValue.sameAll_self rest]

end

mutual

theorem ElementValue.eq_of_same : ∀ {v w : ElementValue}, v.same w = true → v = w
  | .constant _ _, w, h => by cases w <;> simp_all [ElementValue.same]
  | .enumConstant _ _, w, h => by cases w <;> simp_all [ElementValue.same]
  | .classLiteral _, w, h => by cases w <;> simp_all [ElementValue.same]
  | .nested value, w, h => by
    cases w <;> simp only [ElementValue.same, Bool.false_eq_true] at h
    rw [AnnotationUse.eq_of_same h]
  | .array values, w, h => by
    cases w <;> simp only [ElementValue.same, Bool.false_eq_true] at h
    rw [ElementValue.eq_of_sameAll h]

theorem AnnotationUse.eq_of_same : ∀ {a b : AnnotationUse}, a.same b = true → a = b
  | ⟨_, elements⟩, ⟨_, elements'⟩, h => by
    simp only [AnnotationUse.same, Bool.and_eq_true, beq_iff_eq] at h
    rw [h.1, Element.eq_of_sameAll h.2]

theorem Element.eq_of_sameAll : ∀ {l m : List Element}, Element.sameAll l m = true → l = m
  | [], [], _ => rfl
  | [], _ :: _, h => by simp [Element.sameAll] at h
  | _ :: _, [], h => by simp [Element.sameAll] at h
  | ⟨_, value⟩ :: rest, ⟨_, value'⟩ :: rest', h => by
    simp only [Element.sameAll, Bool.and_eq_true, beq_iff_eq] at h
    rw [h.1.1, ElementValue.eq_of_same h.1.2, Element.eq_of_sameAll h.2]

theorem ElementValue.eq_of_sameAll :
    ∀ {l m : List ElementValue}, ElementValue.sameAll l m = true → l = m
  | [], [], _ => rfl
  | [], _ :: _, h => by simp [ElementValue.sameAll] at h
  | _ :: _, [], h => by simp [ElementValue.sameAll] at h
  | value :: rest, value' :: rest', h => by
    simp only [ElementValue.sameAll, Bool.and_eq_true] at h
    rw [ElementValue.eq_of_same h.1, ElementValue.eq_of_sameAll h.2]

end

theorem AnnotationUse.same_iff {a b : AnnotationUse} : a.same b = true ↔ a = b :=
  ⟨AnnotationUse.eq_of_same, fun h => h ▸ AnnotationUse.same_self a⟩

instance : DecidableEq AnnotationUse := fun _ _ => decidable_of_iff _ AnnotationUse.same_iff

end ClassOutline
