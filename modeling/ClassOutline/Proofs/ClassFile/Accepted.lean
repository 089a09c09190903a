/-
  Proofs/ClassFile/Accepted.lean --- reading a class file is the inverse of
  spelling it.

  Layer by layer, from access words to the whole file: the bytes that the reader
  accepts with a value are those that spell it, and the value is one whose counts
  can be written, whose names resolve and whose attributes are annotated by their
  payloads.
-/
import ClassOutline.ClassFile.Decode
import ClassOutline.ClassFile.Spelling
import ClassOutline.Proofs.AnnotationUse.Accepted
import ClassOutline.Proofs.ConstantPool.Accepted

set_option autoImplicit false

namespace ClassOutline

open Decoder

variable {pool : ConstantPool} {bytes : List UInt8}

/-! ## Attributes -/

namespace Attribute

/-- Whether the name of an attribute can be looked up. -/
def Named (pool : ConstantPool) (a : Attribute) : Prop := ∃ name, pool.utf8 a.nameIndex = .ok name

/-- Whether an attribute has annotations if and only if its name says so, and then
those that its payload spells. -/
def Annotated (pool : ConstantPool) (a : Attribute) : Prop :=
  (a.annotations.isSome = true ↔ pool.utf8 a.nameIndex = .ok annotationsName) ∧
    ∀ uses, a.annotations = some uses → AnnotationUse.ofPayload pool a.payload = .ok uses

/-- A name and the annotations that go with it are what a reader looks up. -/
theorem named_and_annotated_iff {a : Attribute} :
    a.Named pool ∧ a.Annotated pool ↔
      ∃ name, pool.utf8 a.nameIndex = .ok name ∧
        annotationsOf pool name a.payload = .ok a.annotations := by
  constructor
  · rintro ⟨⟨name, hname⟩, hsome, huses⟩
    refine ⟨name, hname, ?_⟩
    rw [hname, Except.ok.injEq] at hsome
    rw [annotationsOf]
    cases hannotations : a.annotations with
    | none =>
      have hother : name ≠ annotationsName := by
        simpa [hannotations] using hsome
      rw [if_neg hother]
    | some uses =>
      have hannotating : name = annotationsName := by
        simpa [hannotations] using hsome
      rw [if_pos hannotating, huses uses hannotations]
      rfl
  · rintro ⟨name, hname, hannotations⟩
    refine ⟨⟨name, hname⟩, ?_⟩
    rw [Annotated, hname, Except.ok.injEq]
    by_cases hannotating : name = annotationsName
    · rw [annotationsOf, if_pos hannotating] at hannotations
      cases hpayload : AnnotationUse.ofPayload pool a.payload with
      | error e =>
        rw [hpayload] at hannotations
        cases hannotations
      | ok uses =>
        rw [hpayload] at hannotations
        obtain hsome : some uses = a.annotations := Except.ok.inj hannotations
        simp [← hsome, hannotating]
    · rw [annotationsOf, if_neg hannotating] at hannotations
      obtain hnone : none = a.annotations := Except.ok.inj hannotations
      simp [← hnone, hannotating]

/-- Whether an attribute can be read back. -/
def Legible (pool : ConstantPool) (a : Attribute) : Prop :=
  a.payload.length < 0x100000000 ∧ a.Named pool ∧ a.Annotated pool

theorem accepted_decode {a : Attribute} :
    (Attribute.decode pool).Accepted a bytes ↔ bytes = a.spelling ∧ a.Legible pool := by
  obtain ⟨nameIndex, payload, annotations⟩ := a
  rw [Legible, named_and_annotated_iff, Attribute.decode, spelling]
  simp only [bind_eq_bind, pure_eq_done, accepted_word16_bind, accepted_word32_bind,
    accepted_bytes_bind, accepted_ofExcept_bind, accepted_remark_bind, accepted_done]
  constructor
  · rintro ⟨_, _, rfl, length, _, rfl, _, _, rfl, hlength, name, hname, _, hannotations, ha, rfl⟩
    obtain ⟨rfl, rfl, rfl⟩ := Attribute.mk.inj ha
    have hlt : length.toNat < 0x100000000 := length.toNat_lt
    refine ⟨?_, hlength ▸ hlt, name, hname, hannotations⟩
    rw [List.append_nil, List.append_assoc, hlength, Bytes.ofWord32]
  · rintro ⟨rfl, hlt, name, hname, hannotations⟩
    have hlength : (UInt32.ofNat payload.length).toNat = payload.length :=
      UInt32.toNat_ofNat_of_lt' hlt
    refine ⟨nameIndex, _, List.append_assoc _ _ _, .ofNat payload.length, payload, ?_, payload, [],
      (List.append_nil _).symm, hlength.symm, name, hname, annotations, hannotations, rfl, rfl⟩
    rw [Bytes.ofWord32, hlength]

theorem accepted_decodeAll {attributes : List Attribute} :
    (Attribute.decodeAll pool).Accepted attributes bytes ↔
      bytes = spellings attributes ∧ AllFit attributes ∧
        ∀ a ∈ attributes, a.Named pool ∧ a.Annotated pool := by
  rw [Attribute.decodeAll, accepted_counted accepted_decode, Spelling.counted_eq_flatMap, spellings]
  constructor
  · rintro ⟨⟨hlength, rfl⟩, hlegible⟩
    refine ⟨rfl, ⟨hlength, ?_⟩, ?_⟩
    · intro a ha
      exact (hlegible a ha).1
    · intro a ha
      exact (hlegible a ha).2
  · rintro ⟨rfl, ⟨hlength, hpayloads⟩, hnamed⟩
    refine ⟨⟨hlength, rfl⟩, ?_⟩
    intro a ha
    exact ⟨hpayloads a ha, hnamed a ha⟩

end Attribute

/-! ## Members -/

theorem AccessFlags.accepted_decode {d : Declaration} {access : AccessFlags d} :
    (AccessFlags.decode d).Accepted access bytes ↔
      (∃ spare, bytes = Bytes.ofWord16 (access.word spare)) ∧ True := by
  rw [AccessFlags.decode, bind_eq_bind, accepted_word16_bind, and_true]
  simp only [pure_eq_done, accepted_done]
  constructor
  · rintro ⟨word, _, rfl, rfl, rfl⟩
    exact ⟨word, by rw [List.append_nil, word_ofWord]⟩
  · rintro ⟨spare, rfl⟩
    exact ⟨access.word spare, [], (List.append_nil _).symm, (ofWord_word spare access).symm, rfl⟩

namespace Member

variable {d : Declaration}

/-- Whether the name and the descriptor of a member can be looked up. -/
def Named (pool : ConstantPool) (member : Member d) : Prop :=
  (∃ name, member.name pool = .ok name) ∧ ∃ descriptor, member.descriptor pool = .ok descriptor

/-- Whether a member can be read back. -/
def Legible (pool : ConstantPool) (member : Member d) : Prop :=
  Attribute.AllFit member.attributes ∧ member.Named pool ∧
    ∀ a ∈ member.attributes, a.Named pool ∧ a.Annotated pool

/-- A member is accepted from its spelling with any bits in the gaps of its access
word. -/
theorem accepted_decode {member : Member d} :
    (Member.decode d pool).Accepted member bytes ↔
      (∃ spare, bytes = member.spelling spare) ∧ member.Legible pool := by
  rw [Member.decode, bind_eq_bind, accepted_bind_of_choice AccessFlags.accepted_decode]
  simp only [bind_eq_bind, pure_eq_done, accepted_word16_bind, accepted_requireUtf8_bind,
    Reference.holds_text, accepted_bind_of_good Attribute.accepted_decodeAll, accepted_done]
  constructor
  · rintro ⟨_, spare, _, rfl, -, _, _, rfl, _, _, rfl, hname, hdescriptor, _, _, rfl, hattributes,
      rfl, rfl⟩
    exact ⟨⟨spare, by simp [spelling]⟩, hattributes.1, ⟨hname, hdescriptor⟩, hattributes.2⟩
  · rintro ⟨⟨spare, rfl⟩, hfit, ⟨hname, hdescriptor⟩, hattributes⟩
    refine ⟨member.access, spare, _, ?_, trivial, member.nameIndex, _, rfl, member.descriptorIndex,
      _, rfl, hname, hdescriptor, member.attributes, [], (List.append_nil _).symm,
      ⟨hfit, hattributes⟩, rfl, rfl⟩
    simp [spelling]

theorem accepted_counted_decode {members : List (Member d)} :
    (Decoder.counted (Member.decode d pool)).Accepted members bytes ↔
      (∃ spare, bytes = spellings spare members) ∧ AllFit members ∧
        ∀ member ∈ members, member.Named pool ∧
          ∀ a ∈ member.attributes, a.Named pool ∧ a.Annotated pool := by
  rw [accepted_counted accepted_decode, Spelling.counted_iff_exists_choice]
  constructor
  · rintro ⟨⟨hlength, spare, rfl⟩, hlegible⟩
    refine ⟨⟨spare, rfl⟩, ⟨hlength, ?_⟩, ?_⟩
    · intro member hmember
      exact (hlegible member hmember).1
    · intro member hmember
      exact (hlegible member hmember).2
  · rintro ⟨⟨spare, rfl⟩, ⟨hlength, hfit⟩, hnamed⟩
    refine ⟨⟨hlength, spare, rfl⟩, ?_⟩
    intro member hmember
    exact ⟨hfit member hmember, hnamed member hmember⟩

end Member

/-! ## Class files -/

namespace ClassFile

/-- Whether every name of a class file outside its annotations can be looked
up. -/
structure Named (c : ClassFile) : Prop where
  thisClass : ∃ name, c.className = .ok name
  superClass : c.superClass ≠ 0 → ∃ name, c.pool.className c.superClass = .ok name
  interfaces : ∀ i ∈ c.interfaces, ∃ name, c.pool.className i = .ok name
  fields : ∀ field ∈ c.fields, field.Named c.pool
  methods : ∀ method ∈ c.methods, method.Named c.pool
  attributes : ∀ a ∈ c.everyAttribute, a.Named c.pool

/-- Whether every attribute of a class file has the annotations that its name and
its payload give it. -/
def Annotated (c : ClassFile) : Prop := ∀ a ∈ c.everyAttribute, a.Annotated c.pool

/-- Whether a class file can be read back. -/
structure Legible (c : ClassFile) : Prop where
  magic : c.magic = magicNumber
  fits : c.Fits
  fillers : c.pool.FillersPlaced
  named : c.Named
  annotated : c.Annotated

theorem forall_mem_everyAttribute {c : ClassFile} {P : Attribute → Prop} :
    (∀ a ∈ c.everyAttribute, P a) ↔
      (∀ field ∈ c.fields, ∀ a ∈ field.attributes, P a) ∧
        (∀ method ∈ c.methods, ∀ a ∈ method.attributes, P a) ∧ ∀ a ∈ c.attributes, P a := by
  simp only [everyAttribute, List.forall_mem_append, List.forall_mem_flatMap, and_assoc]

/-- What it takes to read a class file back, in the order in which it is read. -/
theorem legible_iff {c : ClassFile} :
    c.Legible ↔ c.magic = magicNumber ∧ c.Fits ∧ c.pool.FillersPlaced ∧
      (∃ name, c.className = .ok name) ∧
      (c.superClass ≠ 0 → ∃ name, c.pool.className c.superClass = .ok name) ∧
      (∀ index ∈ c.interfaces, ∃ name, c.pool.className index = .ok name) ∧
      (∀ field ∈ c.fields, field.Named c.pool ∧
        ∀ a ∈ field.attributes, a.Named c.pool ∧ a.Annotated c.pool) ∧
      (∀ method ∈ c.methods, method.Named c.pool ∧
        ∀ a ∈ method.attributes, a.Named c.pool ∧ a.Annotated c.pool) ∧
      ∀ a ∈ c.attributes, a.Named c.pool ∧ a.Annotated c.pool := by
  constructor
  · rintro ⟨hmagic, hfits, hfillers, hnamed, hannotated⟩
    have hevery : ∀ a ∈ c.everyAttribute, a.Named c.pool ∧ a.Annotated c.pool := by
      intro a ha
      exact ⟨hnamed.attributes a ha, hannotated a ha⟩
    obtain ⟨hfields, hmethods, hattributes⟩ := forall_mem_everyAttribute.mp hevery
    refine ⟨hmagic, hfits, hfillers, hnamed.thisClass, hnamed.superClass, hnamed.interfaces,
      ?_, ?_, hattributes⟩
    · intro field hfield
      exact ⟨hnamed.fields field hfield, hfields field hfield⟩
    · intro method hmethod
      exact ⟨hnamed.methods method hmethod, hmethods method hmethod⟩
  · rintro ⟨hmagic, hfits, hfillers, hthis, hsuper, hinterfaces, hfields, hmethods, hattributes⟩
    have hevery : ∀ a ∈ c.everyAttribute, a.Named c.pool ∧ a.Annotated c.pool := by
      refine forall_mem_everyAttribute.mpr ⟨?_, ?_, hattributes⟩
      · intro field hfield
        exact (hfields field hfield).2
      · intro method hmethod
        exact (hmethods method hmethod).2
    have hnamed : c.Named := by
      refine ⟨hthis, hsuper, hinterfaces, ?_, ?_, ?_⟩
      · intro field hfield
        exact (hfields field hfield).1
      · intro method hmethod
        exact (hmethods method hmethod).1
      · intro a ha
        exact (hevery a ha).1
    have hannotated : c.Annotated := by
      intro a ha
      exact (hevery a ha).2
    exact ⟨hmagic, hfits, hfillers, hnamed, hannotated⟩

theorem accepted_decodeMagic {magic : UInt32} :
    decodeMagic.Accepted magic bytes ↔ bytes = Bytes.ofWord32 magic ∧ magic = magicNumber := by
  rw [decodeMagic, bind_eq_bind, accepted_word32_bind]
  constructor
  · rintro ⟨word, rest, rfl, h⟩
    split at h
    · rename_i hmagic
      obtain ⟨rfl, rfl⟩ := h
      exact ⟨List.append_nil _, hmagic⟩
    · exact h.elim
  · rintro ⟨rfl, rfl⟩
    refine ⟨magicNumber, [], (List.append_nil _).symm, ?_⟩
    rw [if_pos rfl]
    exact ⟨rfl, rfl⟩

theorem accepted_decodeClassIndex {index : UInt16} :
    (decodeClassIndex pool).Accepted index bytes ↔
      bytes = Bytes.ofWord16 index ∧ ∃ name, pool.className index = .ok name := by
  rw [decodeClassIndex, bind_eq_bind, accepted_word16_bind]
  simp only [bind_eq_bind, pure_eq_done, accepted_ofExcept_bind, accepted_done]
  constructor
  · rintro ⟨_, _, rfl, name, hname, rfl, rfl⟩
    exact ⟨List.append_nil _, name, hname⟩
  · rintro ⟨rfl, name, hname⟩
    exact ⟨index, [], (List.append_nil _).symm, name, hname, rfl, rfl⟩

theorem accepted_counted_decodeClassIndex {indices : List UInt16} :
    (counted (decodeClassIndex pool)).Accepted indices bytes ↔
      bytes = Bytes.ofNat 2 indices.length ++ indices.flatMap Bytes.ofWord16 ∧
        indices.length < 0x10000 ∧ ∀ index ∈ indices, ∃ name, pool.className index = .ok name := by
  rw [accepted_counted accepted_decodeClassIndex, Spelling.counted_eq_flatMap]
  constructor
  · rintro ⟨⟨hlength, rfl⟩, hnamed⟩
    exact ⟨rfl, hlength, hnamed⟩
  · rintro ⟨rfl, hlength, hnamed⟩
    exact ⟨⟨hlength, rfl⟩, hnamed⟩

theorem accepted_decodeSuperClassIndex {index : UInt16} :
    (decodeSuperClassIndex pool).Accepted index bytes ↔
      bytes = Bytes.ofWord16 index ∧
        (index ≠ 0 → ∃ name, pool.className index = .ok name) := by
  rw [decodeSuperClassIndex, bind_eq_bind, accepted_word16_bind]
  constructor
  · rintro ⟨word, rest, rfl, h⟩
    split at h
    · rename_i hzero
      obtain ⟨rfl, rfl⟩ := h
      exact ⟨List.append_nil _, fun hindex => absurd hzero hindex⟩
    · simp only [bind_eq_bind, pure_eq_done, accepted_ofExcept_bind, accepted_done] at h
      obtain ⟨name, hname, rfl, rfl⟩ := h
      exact ⟨List.append_nil _, fun _ => ⟨name, hname⟩⟩
  · rintro ⟨rfl, hnamed⟩
    refine ⟨index, [], (List.append_nil _).symm, ?_⟩
    split
    · exact accepted_done.mpr ⟨rfl, rfl⟩
    · rename_i hindex
      obtain ⟨name, hname⟩ := hnamed hindex
      exact accepted_ofExcept_bind.mpr ⟨name, hname, rfl, rfl⟩

/-- In an empty pool no class has a name. -/
theorem className_of_size_eq_zero (h : pool.slots.size = 0) (index : UInt16) :
    pool.className index = .error (.indexOutOfRange index) := by
  have hentry : pool.entry? index = none := by
    simp [ConstantPool.entry?, Array.eq_empty_of_size_eq_zero h]
  simp [ConstantPool.className, ConstantPool.get, hentry]

/-- What the reader of class files accepts: the spellings of the class files that
can be read back. -/
theorem accepted_decoder {c : ClassFile} :
    decoder.Accepted c bytes ↔
      c.Legible ∧ ∃ latitude : Latitude,
        c.pool.SpelledBy latitude.textBytes ∧ bytes = c.spelling latitude := by
  rw [decoder, bind_eq_bind, accepted_bind_of_good accepted_decodeMagic]
  simp only [bind_eq_bind, pure_eq_done, accepted_word16_bind, accepted_remark_bind,
    accepted_bind (d := ConstantPool.decode)]
  simp only [accepted_bind_of_choice AccessFlags.accepted_decode,
    accepted_bind_of_good accepted_decodeClassIndex,
    accepted_bind_of_good accepted_decodeSuperClassIndex,
    accepted_bind_of_good accepted_counted_decodeClassIndex,
    accepted_bind_of_choice Member.accepted_counted_decode,
    accepted_bind_of_good Attribute.accepted_decodeAll, accepted_done]
  constructor
  -- From `hbytes` to `h₁₁`, what each part leaves is the next part and a rest.
  · rintro ⟨_, _, hbytes, hmagic, _, _, h₁, _, _, h₂, _, _, _, h₃, hpool, _, typeBits, _, h₄, -,
      _, _, h₅, hthis, _, _, h₆, hsuper, _, _, h₇, ⟨hinterfaces, hinterfaceNames⟩,
      _, fieldBits, _, h₈, ⟨hfields, hfieldNames⟩, _, methodBits, _, h₉, ⟨hmethods, hmethodNames⟩,
      _, _, h₁₀, ⟨hattributes, hattributeNames⟩, rfl, h₁₁⟩
    rcases ConstantPool.accepted_decode.mp hpool with
      ⟨hsize, hfillers, textBytes, htexts, hspelled⟩ | ⟨hempty, _⟩
    · refine ⟨legible_iff.mpr ⟨hmagic, ⟨hsize, hinterfaces, hfields, hmethods, hattributes⟩,
          hfillers, hthis, hsuper, hinterfaceNames, hfieldNames, hmethodNames, hattributeNames⟩,
        ⟨typeBits, fieldBits, methodBits, textBytes⟩, htexts, ?_⟩
      simp only [hbytes, h₁, h₂, h₃, h₄, h₅, h₆, h₇, h₈, h₉, h₁₀, h₁₁, hspelled, spelling,
        List.append_assoc, List.append_nil]
    · obtain ⟨name, hname⟩ := hthis
      rw [className_of_size_eq_zero hempty] at hname
      cases hname
  · rintro ⟨hlegible, latitude, htexts, rfl⟩
    obtain ⟨hmagic, hfits, hfillers, hthis, hsuper, hinterfaces, hfields, hmethods, hattributes⟩ :=
      legible_iff.mp hlegible
    have hpool := ConstantPool.accepted_decode.mpr
      (.inl ⟨hfits.slots, hfillers, latitude.textBytes, htexts, rfl⟩)
    refine ⟨c.magic, _, ?_, hmagic, c.minorVersion, _, rfl, c.majorVersion, _, rfl, c.pool, _, _,
      rfl, hpool, c.access, latitude.typeBits, _, rfl, trivial, c.thisClass, _, rfl, hthis,
      c.superClass, _, rfl, hsuper, c.interfaces, _, rfl, ⟨hfits.interfaces, hinterfaces⟩,
      c.fields, latitude.fieldBits, _, rfl, ⟨hfits.fields, hfields⟩,
      c.methods, latitude.methodBits, _, rfl, ⟨hfits.methods, hmethods⟩,
      c.attributes, [], rfl, ⟨hfits.attributes, hattributes⟩, rfl, rfl⟩
    simp only [spelling, List.append_assoc, List.append_nil]

end ClassFile

end ClassOutline
