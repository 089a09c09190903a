/-
  Proofs/Descriptor/Method.lean --- which texts spell a method type.

  The parameters are read for as long as a type can be read.  No type opens with
  the closing parenthesis, and no spelling of a type is the front of another one,
  so the reading stops at the parenthesis behind the last parameter and nowhere
  else.  A text that spells no method type is shown as it is.
-/
import ClassOutline.ClassFile.Render
import ClassOutline.Proofs.Descriptor.Field

set_option autoImplicit false

namespace ClassOutline

/-! ## Parameters -/

namespace FieldType

variable {before types : List FieldType} {cs rest : List Char}

theorem readMany_of_read {type : FieldType} (h : FieldType.read cs = some (type, rest))
    (before : List FieldType) : readMany before cs = readMany (type :: before) rest := by
  rw [readMany]
  split
  · rename_i hread
    rw [h] at hread
    cases hread
    rfl
  · rename_i hread
    rw [h] at hread
    cases hread

theorem readMany_of_read_eq_none (h : FieldType.read cs = none) (before : List FieldType) :
    readMany before cs = (before.reverse, cs) := by
  rw [readMany]
  split
  · rename_i hread
    rw [h] at hread
    cases hread
  · rfl

/-- The types at the front of a text are all read, up to where no type can be
read. -/
theorem readMany_spelling_append (hspellable : ∀ type ∈ types, type.Spellable)
    (hrest : FieldType.read rest = none) (before : List FieldType) :
    readMany before (types.flatMap spelling ++ rest) = (before.reverse ++ types, rest) := by
  induction types generalizing before with
  | nil =>
    rw [List.flatMap_nil, List.nil_append, List.append_nil]
    exact readMany_of_read_eq_none hrest before
  | cons type types ih =>
    obtain ⟨htype, htypes⟩ := List.forall_mem_cons.mp hspellable
    rw [List.flatMap_cons, List.append_assoc, readMany_of_read (read_spelling_append htype _),
      ih htypes, List.reverse_cons, List.append_assoc, List.singleton_append]

/-- What is read in a row was spelled in a row. -/
theorem spelling_of_readMany (h : readMany before cs = (types, rest)) :
    ∃ more, types = before.reverse ++ more ∧ (∀ type ∈ more, type.Spellable) ∧
      cs = more.flatMap spelling ++ rest := by
  fun_induction readMany before cs with
  | case1 before cs type after hread _ ih =>
    obtain ⟨htype, rfl⟩ := read_eq_some_iff.mp hread
    obtain ⟨more, rfl, hmore, rfl⟩ := ih h
    refine ⟨type :: more, ?_, List.forall_mem_cons.mpr ⟨htype, hmore⟩, ?_⟩
    · rw [List.reverse_cons, List.append_assoc, List.singleton_append]
    · rw [List.flatMap_cons, List.append_assoc]
  | case2 before cs hread =>
    obtain ⟨rfl, rfl⟩ := Prod.mk.inj h
    exact ⟨[], (List.append_nil _).symm, by simp, rfl⟩

end FieldType

/-! ## Method types -/

namespace MethodType

variable {text : String} {type : MethodType}

theorem spelling_of_parse (h : MethodType.parse text = some type) :
    type.Spellable ∧ text.toList = type.spelling := by
  unfold MethodType.parse at h
  split at h
  · rename_i cs htext
    split at h
    · rename_i parameters rest hparameters
      rw [Option.map_eq_some_iff] at h
      obtain ⟨returnType, hreturn, rfl⟩ := h
      obtain ⟨more, rfl, hmore, rfl⟩ := FieldType.spelling_of_readMany hparameters
      have hread := whole_eq_some_iff.mp hreturn
      obtain ⟨hspellable, hrest⟩ := FieldType.readReturn_eq_some_iff.mp hread
      rw [List.append_nil] at hrest
      rw [htext, hrest]
      exact ⟨⟨hmore, hspellable⟩, rfl⟩
    · cases h
  · cases h

theorem parse_of_spelling (hspellable : type.Spellable) (h : text.toList = type.spelling) :
    MethodType.parse text = some type := by
  obtain ⟨parameters, returnType⟩ := type
  obtain ⟨hparameters, hresult⟩ := hspellable
  have hclosing : FieldType.read (')' :: FieldType.returnSpelling returnType) = none := rfl
  have hreturn : FieldType.readReturn (FieldType.returnSpelling returnType) =
      some (returnType, []) := by
    rw [FieldType.readReturn_eq_some_iff, List.append_nil]
    exact ⟨hresult, rfl⟩
  rw [MethodType.parse, h]
  simp only [spelling, FieldType.readMany_spelling_append hparameters hclosing, List.reverse_nil,
    List.nil_append, hreturn, whole, Option.map_some]

theorem parse_eq_some_iff :
    MethodType.parse text = some type ↔ type.Spellable ∧ text.toList = type.spelling := by
  constructor
  · intro h
    exact spelling_of_parse h
  · intro h
    exact parse_of_spelling h.1 h.2

/-- No two types have one spelling. -/
theorem eq_of_spelling_eq {other : MethodType} (htype : type.Spellable) (hother : other.Spellable)
    (h : type.spelling = other.spelling) : type = other := by
  have htext : (String.ofList type.spelling).toList = type.spelling := String.toList_ofList
  have hparse := parse_of_spelling htype htext
  rw [parse_of_spelling hother (htext.trans h)] at hparse
  exact (Option.some.inj hparse).symm

theorem parse_eq_none_iff :
    MethodType.parse text = none ↔
      ∀ type : MethodType, type.Spellable → text.toList ≠ type.spelling := by
  rw [Option.eq_none_iff_forall_ne_some]
  constructor
  · intro h type hspellable hspelling
    exact h type (parse_of_spelling hspellable hspelling)
  · intro h type hparse
    obtain ⟨hspellable, hspelling⟩ := spelling_of_parse hparse
    exact h type hspellable hspelling

/-- A text spells a method type just if it is the spelling of its parameters, one
after the other, between parentheses, and of its return type behind them.  No two
types have one spelling, and a text that spells none is shown as it is. -/
theorem parse_iff_spelling_and_methodLine :
    (∀ text parameters returnType,
      MethodType.parse text = some ⟨parameters, returnType⟩ ↔
        ((∀ parameter ∈ parameters, parameter.Spellable) ∧
          ∀ result ∈ returnType, result.Spellable) ∧
        text.toList = '(' :: (parameters.flatMap FieldType.spelling ++
          ')' :: FieldType.returnSpelling returnType)) ∧
    (∀ type other : MethodType, type.Spellable → other.Spellable →
      type.spelling = other.spelling → type = other) ∧
    ∀ text, (∀ type : MethodType, type.Spellable → text.toList ≠ type.spelling) →
      MethodType.parse text = none ∧
        ∀ (legend : Legend) (method : Member .method),
          utf8Text legend method.descriptorIndex = text →
          methodLine legend method = "\t" ++ method.access.modifiers ++ " " ++
            (utf8Text legend method.nameIndex ++ " " ++ text ++ ";") := by
  refine ⟨?_, ?_, ?_⟩
  · intro text parameters returnType
    exact parse_eq_some_iff
  · intro type other htype hother h
    exact eq_of_spelling_eq htype hother h
  · intro text hnot
    have hparse : MethodType.parse text = none := parse_eq_none_iff.mpr hnot
    refine ⟨hparse, ?_⟩
    intro legend method htext
    rw [methodLine, htext, signature, hparse]

/-- Two parameters, the first of a class whose name holds a closing parenthesis, and
a text with a character too many. -/
theorem parse_parenthesis_in_name :
    MethodType.parse "(L)V;[I)V" = some ⟨[⟨0, .object ")V"⟩, ⟨1, .int⟩], none⟩ ∧
      (∀ type : MethodType, type.Spellable → "()VV".toList ≠ type.spelling) ∧
        MethodType.parse "()VV" = none := by
  obtain ⟨hparse, -, hnone⟩ := parse_iff_spelling_and_methodLine
  have hname : ';' ∉ ")V".toList := by decide +kernel
  have hparameters : ∀ parameter ∈ [(⟨0, .object ")V"⟩ : FieldType), ⟨1, .int⟩],
      parameter.Spellable :=
    List.forall_mem_cons.mpr ⟨hname, List.forall_mem_singleton.mpr trivial⟩
  have hextra : ∀ type : MethodType, type.Spellable → "()VV".toList ≠ type.spelling := by
    rintro ⟨parameters, returnType⟩ hspellable hspelling
    have hread : MethodType.parse "()VV" = none := by decide +kernel
    rw [(hparse _ parameters returnType).mpr ⟨hspellable, hspelling⟩] at hread
    cases hread
  refine ⟨?_, hextra, (hnone _ hextra).1⟩
  exact (hparse _ _ _).mpr ⟨⟨hparameters, by simp⟩, by decide +kernel⟩

end MethodType

end ClassOutline
