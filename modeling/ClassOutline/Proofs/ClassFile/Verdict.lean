/-
  Proofs/ClassFile/Verdict.lean --- a broken reference is told, and the first one
  of the file is.

  A class file that can be written down may refer to anything.  Its spelling is
  accepted if every reference that reading looks up holds, and otherwise refused
  with the failure of the first one that does not, in the order of the file.
-/
import ClassOutline.Proofs.Attribute.Verdict
import ClassOutline.Proofs.ClassFile.RoundTrip

set_option autoImplicit false

namespace ClassOutline

open Decoder Reference

variable {pool : ConstantPool} {carried : List UInt8 → List AnnotationUse}

/-! ## Members -/

namespace Member

variable {d : Declaration}

/-- The verdict on a member: its name, its descriptor, and then its attributes. -/
theorem judges_decode {member : Member d} (hfit : Attribute.AllFit member.attributes)
    (hcarries : ∀ a ∈ member.attributes, a.Carries pool (carried a.payload)) (spare : UInt16) :
    (Member.decode d pool).Judges (member.spelling spare)
      (firstBroken? pool (member.lookUps pool carried)) := by
  have haccess : (AccessFlags.decode d).Accepted member.access
      (Bytes.ofWord16 (member.access.word spare)) :=
    AccessFlags.accepted_decode.mpr ⟨⟨spare, rfl⟩, trivial⟩
  simp only [spelling, List.append_assoc]
  rw [lookUps, firstBroken?_cons, firstBroken?_cons]
  refine haccess.bind_judges (judges_word16_bind (judges_word16_bind ?_))
  refine judges_requireUtf8_bind (judges_requireUtf8_bind ?_)
  exact (Attribute.judges_decodeAll hfit hcarries).bind_done _

theorem judges_counted_decode {members : List (Member d)} (hfit : AllFit members)
    (hcarries : ∀ member ∈ members, ∀ a ∈ member.attributes, a.Carries pool (carried a.payload))
    (spare : Nat → UInt16) :
    (Decoder.counted (Member.decode d pool)).Judges (spellings spare members)
      (firstBroken? pool (members.flatMap (Member.lookUps pool carried))) := by
  have hspelled : Spelling.counted (fun member bytes => ∃ r, bytes = Member.spelling r member)
      members (spellings spare members) :=
    (Spelling.counted_iff_exists_choice _).mpr ⟨hfit.1, spare, rfl⟩
  rw [firstBroken?_flatMap]
  refine judges_counted ?_ hspelled
  rintro member hmember _ ⟨bits, rfl⟩
  exact judges_decode (hfit.2 member hmember) (hcarries member hmember) bits

end Member

/-! ## Class files -/

namespace ClassFile

theorem judges_decodeClassIndex {index : UInt16} :
    (decodeClassIndex pool).Judges (Bytes.ofWord16 index)
      (firstBroken? pool [⟨.className, index⟩]) := by
  rw [firstBroken?_cons]
  exact judges_last_word16_bind (judges_ofExcept_bind fun _ _ => ⟨index, rfl, rfl⟩)

theorem judges_decodeSuperClassIndex {index : UInt16} :
    (decodeSuperClassIndex pool).Judges (Bytes.ofWord16 index)
      (firstBroken? pool (if index = 0 then [] else [⟨.className, index⟩])) := by
  refine judges_last_word16_bind ?_
  by_cases hzero : index = 0
  · rw [if_pos hzero, if_pos hzero]
    exact ⟨index, rfl, rfl⟩
  · rw [if_neg hzero, if_neg hzero, firstBroken?_cons]
    exact judges_ofExcept_bind fun _ _ => ⟨index, rfl, rfl⟩

theorem judges_counted_decodeClassIndex {indices : List UInt16} (hlength : indices.length < 0x10000) :
    (counted (decodeClassIndex pool)).Judges
      (Bytes.ofNat 2 indices.length ++ indices.flatMap Bytes.ofWord16)
      (firstBroken? pool (indices.map (⟨.className, ·⟩))) := by
  rw [List.map_eq_flatMap, firstBroken?_flatMap]
  exact judges_counted_flatMap hlength fun index _ => judges_decodeClassIndex

/-- Whether a class file can be written down, whatever it refers to. -/
structure Writable (carried : List UInt8 → List AnnotationUse) (c : ClassFile) : Prop where
  magic : c.magic = magicNumber
  fits : c.Fits
  fillers : c.pool.FillersPlaced
  annotations : ∀ a ∈ c.everyAttribute, a.Carries c.pool (carried a.payload)

/-- The verdict on a class file is that of the references that reading it looks
up, in the order of the file. -/
theorem judges_decoder {c : ClassFile} (hc : c.Writable carried) {latitude : Latitude}
    (htexts : c.pool.SpelledBy latitude.textBytes) :
    decoder.Judges (c.spelling latitude) (firstBroken? c.pool (c.lookUps carried)) := by
  obtain ⟨hmagic, hfits, hfillers, hannotations⟩ := hc
  obtain ⟨hfields, hmethods, hattributes⟩ := forall_mem_everyAttribute.mp hannotations
  have hpool : ConstantPool.decode.Accepted c.pool (c.pool.spelling latitude.textBytes) :=
    ConstantPool.accepted_decode.mpr (.inl ⟨hfits.slots, hfillers, _, htexts, rfl⟩)
  have haccess : (AccessFlags.decode .type).Accepted c.access
      (Bytes.ofWord16 (c.access.word latitude.typeBits)) :=
    AccessFlags.accepted_decode.mpr ⟨⟨latitude.typeBits, rfl⟩, trivial⟩
  simp only [spelling, lookUps, List.append_assoc, firstBroken?_append]
  refine Accepted.bind_judges (accepted_decodeMagic.mpr ⟨rfl, hmagic⟩) ?_
  refine judges_word16_bind (judges_word16_bind (judges_remark_bind ?_))
  refine hpool.bind_judges (haccess.bind_judges ?_)
  -- From here on nothing depends on what was read.
  refine judges_decodeClassIndex.bind fun _ _ => ?_
  refine judges_decodeSuperClassIndex.bind fun _ _ => ?_
  rw [← List.append_assoc (Bytes.ofNat 2 c.interfaces.length)]
  refine (judges_counted_decodeClassIndex hfits.interfaces).bind fun _ _ => ?_
  refine (Member.judges_counted_decode hfits.fields hfields _).bind fun _ _ => ?_
  refine (Member.judges_counted_decode hfits.methods hmethods _).bind fun _ _ => ?_
  exact (Attribute.judges_decodeAll hfits.attributes hattributes).bind_done _

/-- A class file with broken references does not decode: the failure is that of the
first of them, with references that hold before it. -/
theorem decode_spelling_of_broken {c : ClassFile} (hc : c.Writable carried) {latitude : Latitude}
    (htexts : c.pool.SpelledBy latitude.textBytes)
    (hbroken : ∃ r ∈ c.lookUps carried, ¬ r.Holds c.pool) (tail : List UInt8) :
    ∃ before r after e, c.lookUps carried = before ++ r :: after ∧
      (∀ b ∈ before, b.Holds c.pool) ∧ r.BrokenBy c.pool e ∧
      decode (c.spelling latitude ++ tail) = .error e := by
  have hfailure := (judges_decoder hc htexts).failure?_run tail
  have hsome : firstBroken? c.pool (c.lookUps carried) ≠ none := by
    intro hnone
    obtain ⟨r, hr, hnot⟩ := hbroken
    exact hnot (firstBroken?_eq_none_iff.mp hnone r hr)
  obtain ⟨e, he⟩ := Option.ne_none_iff_exists'.mp hsome
  obtain ⟨before, r, after, hlookUps, hr, hbefore⟩ := firstBroken?_eq_some_iff.mp he
  rw [he] at hfailure
  exact ⟨before, r, after, e, hlookUps, hbefore, (brokenBy_iff hc.fillers).mpr hr,
    failure?_eq_some_iff.mp hfailure⟩

/-! ## A class file with three broken references

The value in its annotation names the second slot of a long, the constant behind
it index 0, and the name of its own attribute lies behind the pool. -/

/-- The annotation `@A(A = {..})` with a class literal and a constant that lead
nowhere. -/
def brokenUse : AnnotationUse := ⟨4, [⟨1, .array [.classLiteral 6, .constant .int 0]⟩]⟩

/-- An attribute with that annotation. -/
def brokenAttribute : Attribute where
  nameIndex := 3
  payload := AnnotationUse.payload [brokenUse]
  annotations := none

/-- A class file with that attribute at its field. -/
def brokenClass : ClassFile :=
  { sampleClass with
    fields := [{ sampleField with attributes := [brokenAttribute] }]
    attributes := [⟨300, [], none⟩] }

theorem brokenClass_writable : brokenClass.Writable fun _ => [brokenUse] where
  magic := rfl
  fits := ⟨by decide, by decide, by decide, by decide, by decide⟩
  fillers := by decide
  annotations := by
    have hwritable : AnnotationUse.Writable [brokenUse] := by
      simp [AnnotationUse.Writable, brokenUse, AnnotationUse.Fits, Element.AllFit, ElementValue.Fits,
        ElementValue.AllFit, AnnotationUse.height, Element.heights, ElementValue.height,
        ElementValue.heights, maxDepth]
    refine List.forall_mem_cons.mpr ⟨?_, List.forall_mem_singleton.mpr ?_⟩
    · exact fun _ => ⟨hwritable, [], (List.append_nil _).symm⟩
    · exact fun hnamed => absurd hnamed (by decide)

theorem decode_brokenClass_spelling :
    brokenClass.Writable (fun _ => [brokenUse]) ∧ samplePool.SpelledBy sampleLatitude.textBytes ∧
      (∃ r ∈ brokenClass.lookUps fun _ => [brokenUse], ¬ r.Holds samplePool) ∧
      decode (brokenClass.spelling sampleLatitude ++ [0xFF]) = .error (.indexOutOfRange 6) := by
  have hbroken : ∃ r ∈ brokenClass.lookUps fun _ => [brokenUse], ¬ r.Holds samplePool := by
    refine ⟨⟨.text, 6⟩, ?_, ?_⟩ <;> decide +kernel
  obtain ⟨before, r, after, e, hlookUps, hbefore, hr, hdecode⟩ :=
    decode_spelling_of_broken brokenClass_writable samplePool_spelledBy hbroken [0xFF]
  have hfirst : firstBroken? samplePool (brokenClass.lookUps fun _ => [brokenUse]) = some e :=
    firstBroken?_eq_some_iff.mpr
      ⟨before, r, after, hlookUps, hr.broken? brokenClass_writable.fillers, hbefore⟩
  have hindex : firstBroken? samplePool (brokenClass.lookUps fun _ => [brokenUse]) =
      some (.indexOutOfRange 6) := by
    decide +kernel
  rw [hindex] at hfirst
  obtain rfl := Option.some.inj hfirst
  exact ⟨brokenClass_writable, samplePool_spelledBy, hbroken, hdecode⟩

end ClassFile

end ClassOutline
