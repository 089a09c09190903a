/-
  Proofs/AnnotationUse/Verdict.lean --- what reading says of annotations whose
  references may be broken.

  The bytes that spell an element value, an annotation or a payload are accepted
  if all its references hold.  Otherwise they are refused with the failure of the
  first one that does not, in the order in which they are written.
-/
import ClassOutline.Proofs.AnnotationUse.Accepted
import ClassOutline.Proofs.ConstantPool.Broken
import ClassOutline.Proofs.Decoder.Verdict

set_option autoImplicit false

namespace ClassOutline

open Decoder Reference

variable {pool : ConstantPool} {depth : Nat}

/-! ## Look-ups -/

section LookUps

variable {α β : Type} {bytes : List UInt8} {verdict : Option DecodeError}

/-- The failure of a run is what the verdict says, whatever follows. -/
theorem Decoder.Judges.failure?_run {d : Decoder α} (h : d.Judges bytes verdict)
    (tail : List UInt8) : failure? (d.run (bytes ++ tail)).result = verdict := by
  have hrun := h.run_append tail
  cases verdict with
  | none => exact failure?_eq_none_iff.mpr hrun
  | some e => exact failure?_eq_some_iff.mpr hrun

/-- A look-up takes no bytes, and its failure decides. -/
theorem judges_ofExcept_bind {found : Except DecodeError α} {f : α → Decoder β}
    (h : ∀ a, found = .ok a → (f a).Judges bytes verdict) :
    ((Decoder.ofExcept found).bind f).Judges bytes ((failure? found).or verdict) := by
  cases found with
  | ok a => exact h a rfl
  | error e => exact judges_fail e bytes

theorem judges_requireUtf8_bind {index : UInt16} {f : Unit → Decoder β}
    (h : (f ()).Judges bytes verdict) :
    ((requireUtf8 pool index).bind f).Judges bytes
      ((broken? pool ⟨.text, index⟩).or verdict) := by
  rw [broken?, requireUtf8]
  cases pool.utf8 index with
  | ok text => exact h
  | error e => exact judges_fail e bytes

theorem judges_decodeUtf8Index {index : UInt16} :
    (decodeUtf8Index pool).Judges (Bytes.ofWord16 index) (firstBroken? pool [⟨.text, index⟩]) := by
  rw [firstBroken?_cons]
  exact judges_last_word16_bind (judges_requireUtf8_bind ⟨index, rfl, rfl⟩)

theorem judges_decodeUtf8Index_bind {index : UInt16} {f : UInt16 → Decoder β}
    (h : (f index).Judges bytes verdict) :
    ((decodeUtf8Index pool).bind f).Judges (Bytes.ofWord16 index ++ bytes)
      ((broken? pool ⟨.text, index⟩).or verdict) := by
  have hindex : (decodeUtf8Index pool).Judges _ (firstBroken? pool [⟨.text, index⟩]) :=
    judges_decodeUtf8Index
  rw [firstBroken?_cons, firstBroken?_nil, Option.or_none] at hindex
  refine hindex.bind ?_
  intro read hread
  obtain ⟨hword, -⟩ := accepted_decodeUtf8Index.mp hread
  have hsame : index = read := by
    rw [← Bytes.word16_ofWord16 index, hword, Bytes.word16_ofWord16]
  rw [← hsame]
  exact h

end LookUps

/-! ## Annotations -/

section Readers

variable {value : Decoder ElementValue}

theorem Element.judges_decode {e : Element}
    (h : value.Judges e.value.spelling (firstBroken? pool e.value.references)) :
    (Element.decode pool value).Judges (Bytes.ofWord16 e.name ++ e.value.spelling)
      (firstBroken? pool (⟨.text, e.name⟩ :: e.value.references)) := by
  rw [Element.decode, bind_eq_bind, firstBroken?_cons]
  exact judges_decodeUtf8Index_bind (h.bind_done (Element.mk e.name))

/-- An annotation is read by a reader of its values. -/
theorem AnnotationUse.judges_decodeWith {use : AnnotationUse}
    (hlength : use.elements.length < 0x10000)
    (h : ∀ e ∈ use.elements,
      value.Judges e.value.spelling (firstBroken? pool e.value.references)) :
    (AnnotationUse.decodeWith pool value).Judges use.spelling
      (firstBroken? pool use.references) := by
  obtain ⟨typeIndex, elements⟩ := use
  have helements : (Decoder.counted (Element.decode pool value)).Judges
      (Bytes.ofNat 2 elements.length ++ Element.spellings elements)
      (firstBroken? pool (Element.allReferences elements)) := by
    rw [Element.spellings_eq, Element.allReferences_eq, firstBroken?_flatMap]
    refine judges_counted_flatMap hlength ?_
    intro e he
    exact Element.judges_decode (h e he)
  rw [AnnotationUse.decodeWith, bind_eq_bind, spelling, references, firstBroken?_cons]
  exact judges_decodeUtf8Index_bind (helements.bind_done (AnnotationUse.mk typeIndex))

end Readers

/-! ## Element values -/

namespace ElementValue

section Content

variable {value : Decoder ElementValue}

/-- A constant is refused if there is no entry under its index. -/
theorem judges_decodeContent_constant {kind : ConstantKind} {index : UInt16} :
    (decodeContent pool value (tagChar (tagByte kind.tag))).Judges (Bytes.ofWord16 index)
      (firstBroken? pool [⟨.anyEntry, index⟩]) := by
  have hcontent : decodeContent pool value (tagChar (tagByte kind.tag)) =
      decodeConstant pool kind.tag := by
    cases kind <;> rfl
  rw [hcontent, decodeConstant, ConstantKind.ofTag?_tag, firstBroken?_cons]
  refine judges_last_word16_bind (judges_ofExcept_bind ?_)
  intro entry _
  exact ⟨.constant kind index, rfl, rfl⟩

/-- An enum constant is refused by the name of its type first. -/
theorem judges_decodeContent_enumConstant {typeName constantName : UInt16} :
    (decodeContent pool value 'e').Judges (Bytes.ofWord16 typeName ++ Bytes.ofWord16 constantName)
      (firstBroken? pool [⟨.text, typeName⟩, ⟨.text, constantName⟩]) := by
  rw [firstBroken?_cons, firstBroken?_cons]
  refine judges_word16_bind (judges_last_word16_bind ?_)
  exact judges_requireUtf8_bind (judges_requireUtf8_bind ⟨_, rfl, rfl⟩)

theorem judges_decodeContent_classLiteral {index : UInt16} :
    (decodeContent pool value 'c').Judges (Bytes.ofWord16 index)
      (firstBroken? pool [⟨.text, index⟩]) :=
  judges_decodeUtf8Index.bind_done _

theorem judges_decodeContent_nested {use : AnnotationUse}
    (hlength : use.elements.length < 0x10000)
    (h : ∀ e ∈ use.elements,
      value.Judges e.value.spelling (firstBroken? pool e.value.references)) :
    (decodeContent pool value '@').Judges use.spelling (firstBroken? pool use.references) :=
  (AnnotationUse.judges_decodeWith hlength h).bind_done ElementValue.nested

theorem judges_decodeContent_array {values : List ElementValue} (hlength : values.length < 0x10000)
    (h : ∀ v ∈ values, value.Judges v.spelling (firstBroken? pool v.references)) :
    (decodeContent pool value '[').Judges
      (Bytes.ofNat 2 values.length ++ ElementValue.spellings values)
      (firstBroken? pool (ElementValue.allReferences values)) := by
  rw [spellings_eq, allReferences_eq, firstBroken?_flatMap]
  exact (judges_counted_flatMap hlength h).bind_done ElementValue.array

end Content

/-- The verdict on a value that nests no deeper than it may is that of its
references. -/
theorem judges_decode {v : ElementValue} (hfits : v.Fits) (hheight : v.height ≤ depth) :
    (ElementValue.decode pool depth).Judges v.spelling (firstBroken? pool v.references) := by
  induction depth generalizing v with
  | zero => cases v <;> simp [height] at hheight
  | succ depth ih =>
    -- The tag is accepted, and the content is judged by its own references.
    cases v with
    | constant kind index =>
      exact Accepted.bind_judges (accepted_byte.mpr rfl) judges_decodeContent_constant
    | enumConstant typeName constantName =>
      exact Accepted.bind_judges (accepted_byte.mpr rfl) judges_decodeContent_enumConstant
    | classLiteral index =>
      exact Accepted.bind_judges (accepted_byte.mpr rfl) judges_decodeContent_classLiteral
    | nested use =>
      obtain ⟨typeIndex, elements⟩ := use
      refine Accepted.bind_judges (accepted_byte.mpr rfl) (judges_decodeContent_nested hfits.1 ?_)
      have hheights := Element.heights_le_iff.mp (Nat.le_of_succ_le_succ hheight)
      intro e he
      exact ih (Element.allFit_iff.mp hfits.2 e he) (hheights e he)
    | array values =>
      refine Accepted.bind_judges (accepted_byte.mpr rfl) (judges_decodeContent_array hfits.1 ?_)
      have hheights := heights_le_iff.mp (Nat.le_of_succ_le_succ hheight)
      intro v hv
      exact ih (allFit_iff.mp hfits.2 v hv) (hheights v hv)

end ElementValue

/-! ## Payloads -/

namespace AnnotationUse

variable {uses : List AnnotationUse}

/-- Whether annotations can be written down and lie within the depth allowed,
whatever they refer to. -/
def Writable (uses : List AnnotationUse) : Prop :=
  uses.length < 0x10000 ∧ ∀ use ∈ uses, use.Fits ∧ use.height ≤ maxDepth

theorem judges_decodeAll (h : Writable uses) :
    (AnnotationUse.decodeAll pool).Judges (payload uses)
      (firstBroken? pool (uses.flatMap AnnotationUse.references)) := by
  rw [firstBroken?_flatMap]
  refine judges_counted_flatMap h.1 ?_
  rintro ⟨typeIndex, elements⟩ huse
  obtain ⟨hfits, hheight⟩ := h.2 _ huse
  refine judges_decodeWith hfits.1 ?_
  intro e he
  exact ElementValue.judges_decode (Element.allFit_iff.mp hfits.2 e he)
    (Element.heights_le_iff.mp hheight e he)

/-- A payload that opens with annotations fails as the first of their references
that is broken. -/
theorem failure?_ofPayload (h : Writable uses) (rest : List UInt8) :
    failure? (ofPayload pool (payload uses ++ rest)) =
      firstBroken? pool (uses.flatMap AnnotationUse.references) :=
  (judges_decodeAll h).failure?_run rest

end AnnotationUse

end ClassOutline
