/-
  AnnotationUse/Spelling.lean --- the bytes that spell annotations.

  The writing side of `AnnotationUse/Decode.lean`, by recursion on the tree.  An
  annotation has one spelling, provided that its lists are short enough to be
  counted in 16 bits (`Fits`).  `height` is the depth of the deepest value, where
  a value of the annotation itself lies at depth 1.
-/
import ClassOutline.AnnotationUse.Basic
import ClassOutline.Bytes

set_option autoImplicit false

namespace ClassOutline

/-- The byte that stands for the tag of an element value. -/
def tagByte (tag : Char) : UInt8 := UInt8.ofNat tag.toNat

/-! ## Bytes -/

mutual

/-- The bytes that spell an element value. -/
def ElementValue.spelling : ElementValue → List UInt8
  | .constant kind index => tagByte kind.tag :: Bytes.ofWord16 index
  | .enumConstant typeName constantName =>
    tagByte 'e' :: (Bytes.ofWord16 typeName ++ Bytes.ofWord16 constantName)
  | .classLiteral index => tagByte 'c' :: Bytes.ofWord16 index
  | .nested value => tagByte '@' :: value.spelling
  | .array values =>
    tagByte '[' :: (Bytes.ofNat 2 values.length ++ ElementValue.spellings values)

/-- The bytes that spell an annotation. -/
def AnnotationUse.spelling : AnnotationUse → List UInt8
  | ⟨typeIndex, elements⟩ =>
    Bytes.ofWord16 typeIndex ++ (Bytes.ofNat 2 elements.length ++ Element.spellings elements)

/-- The bytes that spell elements, one after the other. -/
def Element.spellings : List Element → List UInt8
  | [] => []
  | ⟨name, value⟩ :: rest => Bytes.ofWord16 name ++ (value.spelling ++ Element.spellings rest)

/-- The bytes that spell element values, one after the other. -/
def ElementValue.spellings : List ElementValue → List UInt8
  | [] => []
  | value :: rest => value.spelling ++ ElementValue.spellings rest

end

/-- The payload that spells some annotations. -/
def AnnotationUse.payload (uses : List AnnotationUse) : List UInt8 :=
  Bytes.ofNat 2 uses.length ++ uses.flatMap AnnotationUse.spelling

/-! ## Height -/

mutual

/-- The depth of the deepest value in an element value, itself at depth 1. -/
def ElementValue.height : ElementValue → Nat
  | .constant _ _ => 1
  | .enumConstant _ _ => 1
  | .classLiteral _ => 1
  | .nested value => value.height + 1
  | .array values => ElementValue.heights values + 1

/-- The depth of the deepest value in an annotation, or 0 if it has no value. -/
def AnnotationUse.height : AnnotationUse → Nat
  | ⟨_, elements⟩ => Element.heights elements

/-- The greatest height of the values of elements. -/
def Element.heights : List Element → Nat
  | [] => 0
  | ⟨_, value⟩ :: rest => max value.height (Element.heights rest)

/-- The greatest height of element values. -/
def ElementValue.heights : List ElementValue → Nat
  | [] => 0
  | value :: rest => max value.height (ElementValue.heights rest)

end

theorem ElementValue.height_pos (v : ElementValue) : 0 < v.height := by
  cases v <;> exact Nat.succ_pos _

/-! ## Length of lists -/

mutual

/-- Whether every list in an element value can be counted in 16 bits. -/
def ElementValue.Fits : ElementValue → Prop
  | .constant _ _ => True
  | .enumConstant _ _ => True
  | .classLiteral _ => True
  | .nested value => value.Fits
  | .array values => values.length < 0x10000 ∧ ElementValue.AllFit values

/-- Whether every list in an annotation can be counted in 16 bits. -/
def AnnotationUse.Fits : AnnotationUse → Prop
  | ⟨_, elements⟩ => elements.length < 0x10000 ∧ Element.AllFit elements

/-- Whether the values of elements fit. -/
def Element.AllFit : List Element → Prop
  | [] => True
  | ⟨_, value⟩ :: rest => value.Fits ∧ Element.AllFit rest

/-- Whether element values fit. -/
def ElementValue.AllFit : List ElementValue → Prop
  | [] => True
  | value :: rest => value.Fits ∧ ElementValue.AllFit rest

end

/-! ## Lists as lists -/

theorem Element.spellings_eq (elements : List Element) :
    Element.spellings elements =
      elements.flatMap fun e => Bytes.ofWord16 e.name ++ e.value.spelling := by
  induction elements with
  | nil => rfl
  | cons e rest ih =>
    obtain ⟨name, value⟩ := e
    simp [Element.spellings, ih]

theorem ElementValue.spellings_eq (values : List ElementValue) :
    ElementValue.spellings values = values.flatMap ElementValue.spelling := by
  induction values with
  | nil => rfl
  | cons value rest ih => simp [ElementValue.spellings, ih]

theorem Element.heights_le_iff {elements : List Element} {n : Nat} :
    Element.heights elements ≤ n ↔ ∀ e ∈ elements, e.value.height ≤ n := by
  induction elements with
  | nil => simp [Element.heights]
  | cons e rest ih =>
    obtain ⟨name, value⟩ := e
    rw [Element.heights, Nat.max_le, ih, List.forall_mem_cons]

theorem ElementValue.heights_le_iff {values : List ElementValue} {n : Nat} :
    ElementValue.heights values ≤ n ↔ ∀ v ∈ values, v.height ≤ n := by
  induction values with
  | nil => simp [ElementValue.heights]
  | cons v rest ih => rw [ElementValue.heights, Nat.max_le, ih, List.forall_mem_cons]

theorem Element.allFit_iff {elements : List Element} :
    Element.AllFit elements ↔ ∀ e ∈ elements, e.value.Fits := by
  induction elements with
  | nil => simp [Element.AllFit]
  | cons e rest ih =>
    obtain ⟨name, value⟩ := e
    simp [Element.AllFit, ih]

theorem ElementValue.allFit_iff {values : List ElementValue} :
    ElementValue.AllFit values ↔ ∀ v ∈ values, v.Fits := by
  induction values with
  | nil => simp [ElementValue.AllFit]
  | cons v rest ih => simp [ElementValue.AllFit, ih]

end ClassOutline
