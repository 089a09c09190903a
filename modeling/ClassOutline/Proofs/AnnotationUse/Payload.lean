/-
  Proofs/AnnotationUse/Payload.lean --- which payloads hold which annotations.

  A payload holds some annotations just if it opens with their spelling, their
  lists can be counted, no value in them lies deeper than is allowed and every
  index in them holds in the pool.  What stands behind the spelling does not
  count, and a payload that ends before the spelling does is truncated, however
  the file goes on.
-/
import ClassOutline.Proofs.Attribute.Verdict
import ClassOutline.Proofs.ClassFile.RoundTrip
import ClassOutline.Proofs.Decoder.Settled

set_option autoImplicit false

namespace ClassOutline.AnnotationUse

open Decoder Reference

variable {pool : ConstantPool} {use : AnnotationUse} {uses : List AnnotationUse} {n : Nat}

/-! ## Depth

The depth of a value is counted along the way down to it. -/

/-- Whether a value lies at a depth in an annotation. -/
inductive ValueAt (use : AnnotationUse) : Nat → ElementValue → Prop
  | element {e : Element} (he : e ∈ use.elements) : use.ValueAt 1 e.value
  | item {depth : Nat} {values : List ElementValue} {v : ElementValue}
      (harray : use.ValueAt depth (.array values)) (hv : v ∈ values) : use.ValueAt (depth + 1) v
  | nested {depth : Nat} {inner : AnnotationUse} {e : Element}
      (hinner : use.ValueAt depth (.nested inner)) (he : e ∈ inner.elements) :
      use.ValueAt (depth + 1) e.value

theorem height_element_le {e : Element} (he : e ∈ use.elements) : e.value.height ≤ use.height := by
  obtain ⟨typeIndex, elements⟩ := use
  exact Element.heights_le_iff.mp (Nat.le_refl _) e he

/-- From the depth of a value its own height leads no deeper than the height of
the annotation. -/
theorem ValueAt.add_height_le {depth : Nat} {v : ElementValue} (h : use.ValueAt depth v) :
    depth + v.height ≤ use.height + 1 := by
  induction h with
  | element he =>
    have hle := height_element_le he
    omega
  | item _ hv ih =>
    have hle := ElementValue.heights_le_iff.mp (Nat.le_refl _) _ hv
    rw [ElementValue.height] at ih
    omega
  | nested _ he ih =>
    have hle := height_element_le he
    rw [ElementValue.height] at ih
    omega

/-- Where no value lies deeper than `n`, a value at depth `depth` is no higher than
what is left below it. -/
theorem height_le_of_valueAt (hdeepest : ∀ depth v, use.ValueAt depth v → depth ≤ n) {k : Nat} :
    ∀ {depth : Nat} {v : ElementValue}, use.ValueAt depth v → depth + k = n + 1 → v.height ≤ k := by
  induction k with
  | zero =>
    intro depth v hv hdepth
    have hle := hdeepest depth v hv
    omega
  | succ k ih =>
    intro depth v hv hdepth
    cases v with
    | constant kind index => simp [ElementValue.height]
    | enumConstant typeName constantName => simp [ElementValue.height]
    | classLiteral index => simp [ElementValue.height]
    | nested inner =>
      obtain ⟨typeIndex, elements⟩ := inner
      refine Nat.succ_le_succ (Element.heights_le_iff.mpr ?_)
      intro e he
      exact ih (hv.nested he) (by omega)
    | array values =>
      refine Nat.succ_le_succ (ElementValue.heights_le_iff.mpr ?_)
      intro v' hv'
      exact ih (hv.item hv') (by omega)

/-- The height of an annotation is the depth of its deepest value. -/
theorem height_le_iff : use.height ≤ n ↔ ∀ depth v, use.ValueAt depth v → depth ≤ n := by
  constructor
  · intro hheight depth v hv
    have hle := hv.add_height_le
    have hpositive := v.height_pos
    omega
  · intro hdeepest
    obtain ⟨typeIndex, elements⟩ := use
    refine Element.heights_le_iff.mpr ?_
    intro e he
    exact height_le_of_valueAt hdeepest (.element he) (Nat.add_comm 1 n)

/-! ## Payloads -/

/-- Whether annotations can be read back from the payload that spells them. -/
structure Readable (pool : ConstantPool) (uses : List AnnotationUse) : Prop where
  length : uses.length < 0x10000
  fits : ∀ use ∈ uses, use.Fits
  depth : ∀ use ∈ uses, ∀ depth v, use.ValueAt depth v → depth ≤ maxDepth
  references : ∀ use ∈ uses, ∀ r ∈ use.references, r.Holds pool

theorem readable_iff :
    Readable pool uses ↔ uses.length < 0x10000 ∧ ∀ use ∈ uses, use.Legible pool maxDepth := by
  constructor
  · intro h
    refine ⟨h.length, ?_⟩
    intro use huse
    exact ⟨h.fits use huse, height_le_iff.mpr (h.depth use huse), h.references use huse⟩
  · rintro ⟨hlength, hlegible⟩
    refine ⟨hlength, ?_, ?_, ?_⟩ <;> intro use huse
    · exact (hlegible use huse).1
    · exact height_le_iff.mp (hlegible use huse).2.1
    · exact (hlegible use huse).2.2

theorem accepted_decodeAll_iff_readable {bytes : List UInt8} :
    (AnnotationUse.decodeAll pool).Accepted uses bytes ↔
      Readable pool uses ∧ bytes = payload uses := by
  rw [accepted_decodeAll, readable_iff]
  constructor
  · rintro ⟨⟨hlength, hbytes⟩, hlegible⟩
    exact ⟨⟨hlength, hlegible⟩, hbytes⟩
  · rintro ⟨⟨hlength, hlegible⟩, hbytes⟩
    exact ⟨⟨hlength, hbytes⟩, hlegible⟩

theorem ofPayload_eq_ok_iff {bytes : List UInt8} :
    ofPayload pool bytes = .ok uses ↔
      Readable pool uses ∧ ∃ rest, bytes = payload uses ++ rest := by
  constructor
  · intro hread
    obtain ⟨front, hbytes, haccepted⟩ := accepted_of_run hread
    obtain ⟨hreadable, rfl⟩ := accepted_decodeAll_iff_readable.mp haccepted
    exact ⟨hreadable, _, hbytes⟩
  · rintro ⟨hreadable, rest, rfl⟩
    exact (run_append_of_accepted (accepted_decodeAll_iff_readable.mpr ⟨hreadable, rfl⟩) rest).1

/-- A payload that ends before the annotations in it do is too short. -/
theorem ofPayload_of_cut (hreadable : Readable pool uses) {bytes missing : List UInt8}
    (hcut : payload uses = bytes ++ missing) (hmissing : missing ≠ []) :
    ofPayload pool bytes = .error .truncated := by
  have hsettled := settledAt_of_accepted
    (accepted_decodeAll_iff_readable.mpr ⟨hreadable, rfl⟩) []
  rw [List.append_nil, hcut] at hsettled
  have hlength : bytes.length < (bytes ++ missing).length := by
    have hpositive := List.length_pos_iff.mpr hmissing
    rw [List.length_append]
    omega
  have htruncated := hsettled.truncated bytes.length hlength
  rwa [List.take_left] at htruncated

/-- What annotations fail with, their attribute is refused with, however the file
goes on. -/
theorem result_run_decode_of_ofPayload {a : Attribute} {e : DecodeError}
    (hlength : a.payload.length < 0x100000000) (hholds : a.HoldsAnnotations pool)
    (hfailed : ofPayload pool a.payload = .error e) (tail : List UInt8) :
    ((Attribute.decode pool).run (a.spelling ++ tail)).result = .error e := by
  have hname : broken? pool ⟨.text, a.nameIndex⟩ = none := by
    rw [broken?, failure?_eq_none_iff]
    exact ⟨annotationsName, hholds⟩
  have hfailure : ∀ name, pool.utf8 a.nameIndex = .ok name →
      failure? (Attribute.annotationsOf pool name a.payload) = some e := by
    intro name hfound
    obtain rfl := hholds.name_eq hfound
    rw [Attribute.annotationsOf, if_pos rfl, hfailed]
    rfl
  have hverdict := Attribute.judges_decode_of_failure hlength hfailure
  rw [hname, Option.none_or] at hverdict
  exact hverdict.run_append tail

/-- A payload holds the annotations that it opens with, if these can be read back,
and no others.  An attribute whose payload is cut short within them is
truncated. -/
theorem ofPayload_exact (pool : ConstantPool) :
    (∀ bytes uses, ofPayload pool bytes = .ok uses ↔
      Readable pool uses ∧ ∃ rest, bytes = payload uses ++ rest) ∧
    ∀ uses, Readable pool uses → ∀ (a : Attribute) (missing : List UInt8),
      payload uses = a.payload ++ missing → missing ≠ [] →
      a.payload.length < 0x100000000 → a.HoldsAnnotations pool →
      ∀ tail, ((Attribute.decode pool).run (a.spelling ++ tail)).result = .error .truncated := by
  refine ⟨fun _ _ => ofPayload_eq_ok_iff, ?_⟩
  intro uses hreadable a missing hcut hmissing hlength hholds
  exact result_run_decode_of_ofPayload hlength hholds (ofPayload_of_cut hreadable hcut hmissing)

/-- The annotation of the sample class, and its payload without the last byte. -/
theorem ofPayload_sampleUse :
    Readable ClassFile.samplePool [ClassFile.sampleUse] ∧
      ofPayload ClassFile.samplePool (payload [ClassFile.sampleUse] ++ [0xFF]) =
        .ok [ClassFile.sampleUse] ∧
      ((Attribute.decode ClassFile.samplePool).run
        ((⟨3, (payload [ClassFile.sampleUse]).dropLast, none⟩ : Attribute).spelling ++
          [5, 0, 0])).result = .error .truncated := by
  obtain ⟨hexact, htruncated⟩ := ofPayload_exact ClassFile.samplePool
  have hread : ofPayload ClassFile.samplePool (payload [ClassFile.sampleUse] ++ [0xFF]) =
      .ok [ClassFile.sampleUse] := by
    decide +kernel
  have hreadable := ((hexact _ _).mp hread).1
  refine ⟨hreadable, hread, ?_⟩
  exact htruncated _ hreadable ⟨3, _, none⟩ [5] (by decide) (by decide) (by decide) (by decide) _

end ClassOutline.AnnotationUse
