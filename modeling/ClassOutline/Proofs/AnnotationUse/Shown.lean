/-
  Proofs/AnnotationUse/Shown.lean --- what the text of an annotation depends on.

  Where every reference holds, a legend supplies nothing in the place of a name.
  In the place of a constant it supplies a text just if the entry of the constant
  is of another kind than its tag demands.
-/
import ClassOutline.AnnotationUse.Render
import ClassOutline.ClassFile.References

set_option autoImplicit false

namespace ClassOutline

variable {pool : ConstantPool} {index : UInt16}

/-! ## Constants -/

/-- The kind of entry that constants of a kind are kept in. -/
def ConstantKind.entryKind : ConstantKind → EntryKind
  | .byte => .integer
  | .char => .integer
  | .double => .double
  | .float => .float
  | .int => .integer
  | .long => .long
  | .short => .integer
  | .boolean => .integer
  | .string => .utf8

theorem constantText?_eq_none_iff {kind : ConstantKind} {entry : Entry} :
    constantText? kind entry = none ↔ entry.kind ≠ kind.entryKind := by
  cases kind <;> cases entry <;> simp [constantText?, Entry.kind, ConstantKind.entryKind]

/-- A constant in an entry of its kind has a text of its own. -/
theorem exists_constantText {kind : ConstantKind} {entry : Entry}
    (hget : pool.get index = .ok entry) (hkind : entry.kind = kind.entryKind) :
    ∃ text, ∀ legend : Legend, legend.pool = pool → constantText legend kind index = text := by
  have hsome : constantText? kind entry ≠ none := by
    intro hnone
    exact constantText?_eq_none_iff.mp hnone hkind
  obtain ⟨text, htext⟩ := Option.ne_none_iff_exists'.mp hsome
  refine ⟨text, ?_⟩
  rintro legend rfl
  simp only [constantText, hget, htext, Option.getD_some]

/-- A constant is shown by what the legend puts in its place just if its entry is
of another kind. -/
theorem constantText_eq_missing_iff {kind : ConstantKind} {entry : Entry}
    (hget : pool.get index = .ok entry) :
    (∀ legend : Legend, legend.pool = pool →
        constantText legend kind index = legend.missingConstant index) ↔
      entry.kind ≠ kind.entryKind := by
  constructor
  · intro hmissing hkind
    obtain ⟨text, htext⟩ := exists_constantText hget hkind
    -- A legend that puts something longer in the place of the constant would show it.
    have hlonger := hmissing ⟨pool, Entry.indexText, fun _ => text ++ "?"⟩ rfl
    rw [htext _ rfl] at hlonger
    have hlength := congrArg String.length hlonger
    simp at hlength
  · rintro hkind legend rfl
    rw [← constantText?_eq_none_iff] at hkind
    simp only [constantText, hget, hkind, Option.getD_none]

mutual

/-- The constants in an element value, at any depth. -/
def ElementValue.constants : ElementValue → List (ConstantKind × UInt16)
  | .constant kind index => [(kind, index)]
  | .enumConstant _ _ => []
  | .classLiteral _ => []
  | .nested value => value.constants
  | .array values => ElementValue.allConstants values

/-- The constants in an annotation. -/
def AnnotationUse.constants : AnnotationUse → List (ConstantKind × UInt16)
  | ⟨_, elements⟩ => Element.allConstants elements

/-- The constants in elements. -/
def Element.allConstants : List Element → List (ConstantKind × UInt16)
  | [] => []
  | ⟨_, value⟩ :: rest => value.constants ++ Element.allConstants rest

/-- The constants in element values. -/
def ElementValue.allConstants : List ElementValue → List (ConstantKind × UInt16)
  | [] => []
  | value :: rest => value.constants ++ ElementValue.allConstants rest

end

mutual

/-- The index of every constant is referred to. -/
theorem ElementValue.anyEntry_mem_references : ∀ {v : ElementValue} {kind : ConstantKind},
    (kind, index) ∈ v.constants → (⟨.anyEntry, index⟩ : Reference) ∈ v.references
  | .constant _ _, _, h => by
    rw [ElementValue.constants, List.mem_singleton, Prod.mk.injEq] at h
    rw [ElementValue.references, h.2]
    exact List.mem_singleton_self _
  | .enumConstant _ _, _, h => by simp [ElementValue.constants] at h
  | .classLiteral _, _, h => by simp [ElementValue.constants] at h
  | .nested _, _, h => by
    rw [ElementValue.constants] at h
    exact AnnotationUse.anyEntry_mem_references h
  | .array _, _, h => by
    rw [ElementValue.constants] at h
    exact ElementValue.anyEntry_mem_allReferences h

theorem AnnotationUse.anyEntry_mem_references : ∀ {use : AnnotationUse} {kind : ConstantKind},
    (kind, index) ∈ use.constants → (⟨.anyEntry, index⟩ : Reference) ∈ use.references
  | ⟨_, _⟩, _, h => by
    rw [AnnotationUse.constants] at h
    exact List.mem_cons_of_mem _ (Element.anyEntry_mem_allReferences h)

theorem Element.anyEntry_mem_allReferences : ∀ {elements : List Element} {kind : ConstantKind},
    (kind, index) ∈ Element.allConstants elements →
      (⟨.anyEntry, index⟩ : Reference) ∈ Element.allReferences elements
  | [], _, h => by simp [Element.allConstants] at h
  | ⟨_, value⟩ :: rest, _, h => by
    rw [Element.allConstants, List.mem_append] at h
    rw [Element.allReferences]
    refine List.mem_cons_of_mem _ (List.mem_append.mpr ?_)
    rcases h with hvalue | hrest
    · exact .inl (ElementValue.anyEntry_mem_references hvalue)
    · exact .inr (Element.anyEntry_mem_allReferences hrest)

theorem ElementValue.anyEntry_mem_allReferences : ∀ {values : List ElementValue}
    {kind : ConstantKind}, (kind, index) ∈ ElementValue.allConstants values →
      (⟨.anyEntry, index⟩ : Reference) ∈ ElementValue.allReferences values
  | [], _, h => by simp [ElementValue.allConstants] at h
  | value :: rest, _, h => by
    rw [ElementValue.allConstants, List.mem_append] at h
    rw [ElementValue.allReferences, List.mem_append]
    rcases h with hvalue | hrest
    · exact .inl (ElementValue.anyEntry_mem_references hvalue)
    · exact .inr (ElementValue.anyEntry_mem_allReferences hrest)

end

/-! ## Legends that agree -/

/-- Whether two legends show references and constants of the same pool alike: the
references hold, so no name of theirs is missing, and the constants have the same
text. -/
structure Legend.Agree (l l' : Legend) (references : List Reference)
    (constants : List (ConstantKind × UInt16)) : Prop where
  pool : l'.pool = l.pool
  holds : ∀ r ∈ references, r.Holds l.pool
  constants : ∀ x ∈ constants, constantText l x.1 x.2 = constantText l' x.1 x.2

section Agreement

variable {l l' : Legend} {references : List Reference} {constants : List (ConstantKind × UInt16)}

namespace Legend.Agree

/-- Legends that agree on lists agree on parts of them. -/
theorem mono (h : l.Agree l' references constants) {references' : List Reference}
    {constants' : List (ConstantKind × UInt16)} (hreferences : references' ⊆ references)
    (hconstants : constants' ⊆ constants) : l.Agree l' references' constants' where
  pool := h.pool
  holds r hr := h.holds r (hreferences hr)
  constants x hx := h.constants x (hconstants hx)

theorem utf8Text_eq (h : l.Agree l' references constants)
    (hindex : ⟨.text, index⟩ ∈ references) : utf8Text l index = utf8Text l' index := by
  obtain ⟨text, htext⟩ := Reference.holds_text.mp (h.holds _ hindex)
  rw [utf8Text, utf8Text, h.pool, htext]
  rfl

theorem classText_eq (h : l.Agree l' references constants)
    (hindex : ⟨.className, index⟩ ∈ references) : classText l index = classText l' index := by
  obtain ⟨name, hname⟩ := Reference.holds_className.mp (h.holds _ hindex)
  rw [classText, classText, h.pool, hname]
  rfl

theorem typeText_eq (h : l.Agree l' references constants)
    (hindex : ⟨.text, index⟩ ∈ references) : typeText l index = typeText l' index := by
  rw [typeText, typeText, h.utf8Text_eq hindex]

end Legend.Agree

mutual

/-- Legends that agree on what a value refers to and contains show it alike. -/
theorem ElementValue.text_eq : ∀ {v : ElementValue},
    l.Agree l' v.references v.constants → v.text l = v.text l'
  | .constant kind index, h => by
    rw [ElementValue.text, ElementValue.text]
    exact h.constants (kind, index) (List.mem_singleton_self _)
  | .enumConstant _ _, h => by
    rw [ElementValue.text, ElementValue.text, h.typeText_eq (by simp [ElementValue.references]),
      h.utf8Text_eq (by simp [ElementValue.references])]
  | .classLiteral _, h => by
    rw [ElementValue.text, ElementValue.text,
      h.utf8Text_eq (by simp [ElementValue.references])]
  | .nested _, h => by
    rw [ElementValue.references, ElementValue.constants] at h
    rw [ElementValue.text, ElementValue.text, AnnotationUse.text_eq h]
  | .array _, h => by
    rw [ElementValue.references, ElementValue.constants] at h
    rw [ElementValue.text, ElementValue.text, ElementValue.texts_eq [] h]

theorem AnnotationUse.text_eq : ∀ {use : AnnotationUse},
    l.Agree l' use.references use.constants → use.text l = use.text l'
  | ⟨_, _⟩, h => by
    rw [AnnotationUse.references, AnnotationUse.constants] at h
    have helements := h.mono (List.subset_cons_self _ _) (List.Subset.refl _)
    rw [AnnotationUse.text, AnnotationUse.text, h.typeText_eq (List.mem_cons_self),
      Element.texts_eq [] helements]

theorem Element.texts_eq : ∀ {elements : List Element} (before : List String),
    l.Agree l' (Element.allReferences elements) (Element.allConstants elements) →
      Element.texts l before elements = Element.texts l' before elements
  | [], _, _ => by rw [Element.texts, Element.texts]
  | ⟨_, value⟩ :: rest, before, h => by
    rw [Element.allReferences, Element.allConstants] at h
    have hvalue : l.Agree l' value.references value.constants := h.mono (by simp) (by simp)
    have hrest : l.Agree l' (Element.allReferences rest) (Element.allConstants rest) :=
      h.mono (by simp) (by simp)
    rw [Element.texts, Element.texts, h.utf8Text_eq List.mem_cons_self,
      ElementValue.text_eq hvalue, Element.texts_eq _ hrest]

theorem ElementValue.texts_eq : ∀ {values : List ElementValue} (before : List String),
    l.Agree l' (ElementValue.allReferences values) (ElementValue.allConstants values) →
      ElementValue.texts l before values = ElementValue.texts l' before values
  | [], _, _ => by rw [ElementValue.texts, ElementValue.texts]
  | value :: rest, before, h => by
    rw [ElementValue.allReferences, ElementValue.allConstants] at h
    have hvalue : l.Agree l' value.references value.constants := h.mono (by simp) (by simp)
    have hrest : l.Agree l' (ElementValue.allReferences rest) (ElementValue.allConstants rest) :=
      h.mono (by simp) (by simp)
    rw [ElementValue.texts, ElementValue.texts, ElementValue.text_eq hvalue,
      ElementValue.texts_eq _ hrest]

end

end Agreement

end ClassOutline
