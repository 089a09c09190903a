/-
  Proofs/Attribute/Verdict.lean --- what reading says of attributes whose references
  may be broken.

  An attribute is refused by its name first.  Its annotations are read from its
  payload alone, so whatever they fail with the attribute is refused with, and no
  byte behind the payload has a part in it.
-/
import ClassOutline.Attribute.Decode
import ClassOutline.ClassFile.Spelling
import ClassOutline.Proofs.AnnotationUse.Verdict

set_option autoImplicit false

namespace ClassOutline.Attribute

open Decoder Reference

variable {pool : ConstantPool} {carried : List UInt8 → List AnnotationUse} {a : Attribute}

/-! ## The annotations of a payload -/

/-- Whether the payload of an attribute opens with annotations that can be written
down, if its name says that it holds some. -/
def Carries (pool : ConstantPool) (uses : List AnnotationUse) (a : Attribute) : Prop :=
  a.HoldsAnnotations pool →
    AnnotationUse.Writable uses ∧ ∃ rest, a.payload = AnnotationUse.payload uses ++ rest

theorem HoldsAnnotations.name_eq (h : a.HoldsAnnotations pool) {name : String}
    (hname : pool.utf8 a.nameIndex = .ok name) : name = annotationsName := by
  rw [HoldsAnnotations, hname] at h
  exact Except.ok.inj h

/-- The annotations of a payload fail as the first of their references that is
broken, and only where they are asked for. -/
theorem failure?_annotationsOf (hcarries : a.Carries pool (carried a.payload)) {name : String}
    (hname : pool.utf8 a.nameIndex = .ok name) :
    failure? (annotationsOf pool name a.payload) =
      firstBroken? pool (if a.HoldsAnnotations pool then
        (carried a.payload).flatMap AnnotationUse.references else []) := by
  by_cases hholds : a.HoldsAnnotations pool
  · obtain ⟨hwritable, rest, hpayload⟩ := hcarries hholds
    obtain rfl := hholds.name_eq hname
    have hfailure : failure? (AnnotationUse.ofPayload pool a.payload) =
        firstBroken? pool ((carried a.payload).flatMap AnnotationUse.references) := by
      rw [← AnnotationUse.failure?_ofPayload hwritable rest, ← hpayload]
    rw [annotationsOf, if_pos rfl, if_pos hholds, ← hfailure]
    cases AnnotationUse.ofPayload pool a.payload <;> rfl
  · have hother : name ≠ annotationsName := by
      rintro rfl
      exact hholds hname
    rw [annotationsOf, if_neg hother, if_neg hholds]
    rfl

/-! ## Attributes -/

/-- The verdict on an attribute: its name first, and then the annotations in its
payload. -/
theorem judges_decode_of_failure {verdict : Option DecodeError}
    (hlength : a.payload.length < 0x100000000)
    (hfailure : ∀ name, pool.utf8 a.nameIndex = .ok name →
      failure? (annotationsOf pool name a.payload) = verdict) :
    (Attribute.decode pool).Judges a.spelling
      ((broken? pool ⟨.text, a.nameIndex⟩).or verdict) := by
  have hcount : (UInt32.ofNat a.payload.length).toNat = a.payload.length :=
    UInt32.toNat_ofNat_of_lt' hlength
  have hword : Bytes.ofNat 4 a.payload.length = Bytes.ofWord32 (.ofNat a.payload.length) := by
    rw [Bytes.ofWord32, hcount]
  rw [spelling, hword, List.append_assoc]
  refine judges_word16_bind (Accepted.bind_judges (accepted_word32.mpr rfl) ?_)
  refine Accepted.bind_judges_nil (accepted_bytes.mpr ⟨rfl, hcount.symm⟩) ?_
  refine judges_ofExcept_bind ?_
  intro name hname
  rw [← hfailure name hname, ← Option.or_none (o := failure? _)]
  refine judges_remark_bind (judges_ofExcept_bind ?_)
  intro annotations _
  exact ⟨_, rfl, rfl⟩

/-- Where its payload opens with annotations, the first broken reference of an
attribute decides. -/
theorem judges_decode (hlength : a.payload.length < 0x100000000)
    (hcarries : a.Carries pool (carried a.payload)) :
    (Attribute.decode pool).Judges a.spelling (firstBroken? pool (a.lookUps pool carried)) := by
  rw [lookUps, firstBroken?_cons]
  exact judges_decode_of_failure hlength fun _ hname => failure?_annotationsOf hcarries hname

theorem judges_decodeAll {attributes : List Attribute} (hfit : AllFit attributes)
    (hcarries : ∀ a ∈ attributes, a.Carries pool (carried a.payload)) :
    (Attribute.decodeAll pool).Judges (spellings attributes)
      (firstBroken? pool (attributes.flatMap (Attribute.lookUps pool carried))) := by
  rw [firstBroken?_flatMap]
  refine judges_counted_flatMap hfit.1 ?_
  intro a ha
  exact judges_decode (hfit.2 a ha) (hcarries a ha)

end ClassOutline.Attribute
