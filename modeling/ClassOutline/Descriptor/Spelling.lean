/-
  Descriptor/Spelling.lean --- how types are spelled in a class file.

  This is the writing side of `Descriptor.lean`, by recursion on the type.  Every
  type has one spelling.  Only a class name with a semicolon in it cannot be read
  back, because the semicolon is taken for the end of the name.
-/
import ClassOutline.Descriptor

set_option autoImplicit false

namespace ClassOutline

/-- The characters that spell a base type. -/
def BaseType.spelling : BaseType → List Char
  | .byte => ['B']
  | .char => ['C']
  | .double => ['D']
  | .float => ['F']
  | .int => ['I']
  | .long => ['J']
  | .short => ['S']
  | .boolean => ['Z']
  | .object className => 'L' :: (className.toList ++ [';'])

/-- Whether a base type can be read back: it names no class with a semicolon. -/
def BaseType.Spellable : BaseType → Prop
  | .object className => ';' ∉ className.toList
  | _ => True

/-- The characters that spell a field type. -/
def FieldType.spelling (type : FieldType) : List Char :=
  List.replicate type.dimensions '[' ++ type.base.spelling

/-- Whether a field type can be read back. -/
def FieldType.Spellable (type : FieldType) : Prop := type.base.Spellable

/-- The characters that spell a return type. -/
def FieldType.returnSpelling : Option FieldType → List Char
  | none => ['V']
  | some type => type.spelling

/-- The characters that spell a method type. -/
def MethodType.spelling (type : MethodType) : List Char :=
  '(' :: (type.parameters.flatMap FieldType.spelling ++
    ')' :: FieldType.returnSpelling type.returnType)

/-- Whether a method type can be read back. -/
def MethodType.Spellable (type : MethodType) : Prop :=
  (∀ parameter ∈ type.parameters, parameter.Spellable) ∧
    ∀ result ∈ type.returnType, result.Spellable

/-! ## The opening character -/

/-- A base type opens with one of nine letters, so never with a bracket, a
parenthesis or the letter of a missing return type. -/
theorem BaseType.head?_spelling (base : BaseType) :
    ∃ c ∈ ['B', 'C', 'D', 'F', 'I', 'J', 'S', 'Z', 'L'], base.spelling.head? = some c := by
  cases base <;> simp [BaseType.spelling]

/-- The spelling of a type with one dimension more. -/
theorem FieldType.spelling_succ (dimensions : Nat) (base : BaseType) :
    FieldType.spelling ⟨dimensions + 1, base⟩ = '[' :: FieldType.spelling ⟨dimensions, base⟩ := by
  simp [FieldType.spelling, List.replicate_succ]

end ClassOutline
