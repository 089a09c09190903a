/-
  Proofs/AnnotationUse/Accepted.lean --- reading annotations is the inverse of
  spelling them.

  An annotation and an element value are accepted from the one list of bytes that
  spells them, and only if they are legible: their lists can be counted, their
  values lie within the depth allowed and their indices hold in the pool.
-/
import ClassOutline.AnnotationUse.Decode
import ClassOutline.AnnotationUse.Spelling
import ClassOutline.ClassFile.References
import ClassOutline.Proofs.Decoder.Accepted

set_option autoImplicit false

namespace ClassOutline

open Decoder

variable {pool : ConstantPool} {depth : Nat}

/-! ## Indices -/

section Indices

variable {β : Type} {b : β} {bytes : List UInt8}

theorem accepted_requireUtf8_bind {index : UInt16} {f : Unit → Decoder β} :
    ((requireUtf8 pool index).bind f).Accepted b bytes ↔
      (⟨.text, index⟩ : Reference).Holds pool ∧ (f ()).Accepted b bytes := by
  rw [Reference.holds_text, requireUtf8]
  cases pool.utf8 index with
  | ok text => simp [Decoder.ofExcept, Decoder.bind]
  | error e => simp [Decoder.ofExcept, Decoder.bind]

theorem accepted_decodeUtf8Index {index : UInt16} :
    (decodeUtf8Index pool).Accepted index bytes ↔
      bytes = Bytes.ofWord16 index ∧ (⟨.text, index⟩ : Reference).Holds pool := by
  rw [decodeUtf8Index, bind_eq_bind, accepted_word16_bind]
  simp only [bind_eq_bind, pure_eq_done, accepted_requireUtf8_bind, accepted_done]
  constructor
  · rintro ⟨_, _, rfl, hholds, rfl, rfl⟩
    exact ⟨List.append_nil _, hholds⟩
  · rintro ⟨rfl, hholds⟩
    exact ⟨index, [], (List.append_nil _).symm, hholds, rfl, rfl⟩

theorem accepted_decodeUtf8Index_bind {f : UInt16 → Decoder β} :
    ((decodeUtf8Index pool).bind f).Accepted b bytes ↔
      ∃ index back, bytes = Bytes.ofWord16 index ++ back ∧
        (⟨.text, index⟩ : Reference).Holds pool ∧ (f index).Accepted b back :=
  accepted_bind_of_good accepted_decodeUtf8Index

end Indices

/-! ## Legibility -/

/-- Whether an element value can be read back where `depth` values may nest,
itself counted. -/
def ElementValue.Legible (pool : ConstantPool) (depth : Nat) (v : ElementValue) : Prop :=
  v.Fits ∧ v.height ≤ depth ∧ ∀ r ∈ v.references, r.Holds pool

/-- Whether an annotation can be read back where `depth` values may nest below
it. -/
def AnnotationUse.Legible (pool : ConstantPool) (depth : Nat) (use : AnnotationUse) : Prop :=
  use.Fits ∧ use.height ≤ depth ∧ ∀ r ∈ use.references, r.Holds pool

theorem AnnotationUse.legible_iff {typeIndex : UInt16} {elements : List Element} :
    AnnotationUse.Legible pool depth ⟨typeIndex, elements⟩ ↔
      (⟨.text, typeIndex⟩ : Reference).Holds pool ∧ elements.length < 0x10000 ∧
        ∀ e ∈ elements, (⟨.text, e.name⟩ : Reference).Holds pool ∧ e.value.Legible pool depth := by
  have hreferences : (∀ r ∈ Element.allReferences elements, r.Holds pool) ↔
      ∀ e ∈ elements, (⟨.text, e.name⟩ : Reference).Holds pool ∧
        ∀ r ∈ e.value.references, r.Holds pool := by
    simp only [Element.allReferences_eq, List.forall_mem_flatMap, List.forall_mem_cons]
  rw [Legible, AnnotationUse.Fits, height, references, List.forall_mem_cons, hreferences,
    Element.allFit_iff, Element.heights_le_iff]
  constructor
  · rintro ⟨⟨hlength, hfits⟩, hheight, htype, helements⟩
    refine ⟨htype, hlength, ?_⟩
    intro e he
    obtain ⟨hname, hreferences⟩ := helements e he
    exact ⟨hname, hfits e he, hheight e he, hreferences⟩
  · rintro ⟨htype, hlength, helements⟩
    refine ⟨⟨hlength, ?_⟩, ?_, htype, ?_⟩
    · intro e he
      exact (helements e he).2.1
    · intro e he
      exact (helements e he).2.2.1
    · intro e he
      obtain ⟨hname, -, -, hreferences⟩ := helements e he
      exact ⟨hname, hreferences⟩

theorem ElementValue.legible_array {values : List ElementValue} :
    (ElementValue.array values).Legible pool (depth + 1) ↔
      values.length < 0x10000 ∧ ∀ v ∈ values, v.Legible pool depth := by
  rw [Legible, ElementValue.Fits, height, references, ElementValue.allFit_iff,
    Nat.add_le_add_iff_right, ElementValue.heights_le_iff, ElementValue.allReferences_eq,
    List.forall_mem_flatMap]
  constructor
  · rintro ⟨⟨hlength, hfits⟩, hheight, hreferences⟩
    refine ⟨hlength, ?_⟩
    intro v hv
    exact ⟨hfits v hv, hheight v hv, hreferences v hv⟩
  · rintro ⟨hlength, hvalues⟩
    refine ⟨⟨hlength, ?_⟩, ?_, ?_⟩
    · intro v hv
      exact (hvalues v hv).1
    · intro v hv
      exact (hvalues v hv).2.1
    · intro v hv
      exact (hvalues v hv).2.2

theorem ElementValue.legible_nested {use : AnnotationUse} :
    (ElementValue.nested use).Legible pool (depth + 1) ↔ use.Legible pool depth := by
  rw [Legible, ElementValue.Fits, height, references, Nat.add_le_add_iff_right,
    AnnotationUse.Legible]

/-! ## Annotations -/

section Readers

variable {value : Decoder ElementValue} {bytes : List UInt8}

theorem Element.accepted_decode
    (h : ∀ {v bytes}, value.Accepted v bytes ↔ bytes = v.spelling ∧ v.Legible pool depth)
    {e : Element} :
    (Element.decode pool value).Accepted e bytes ↔
      bytes = Bytes.ofWord16 e.name ++ e.value.spelling ∧
        (⟨.text, e.name⟩ : Reference).Holds pool ∧ e.value.Legible pool depth := by
  obtain ⟨name, v⟩ := e
  rw [Element.decode, bind_eq_bind, accepted_decodeUtf8Index_bind]
  simp only [bind_eq_bind, pure_eq_done, accepted_bind, accepted_done, h]
  constructor
  · rintro ⟨_, _, rfl, hname, _, _, _, rfl, ⟨rfl, hlegible⟩, helement, rfl⟩
    obtain ⟨rfl, rfl⟩ := Element.mk.inj helement
    exact ⟨by rw [List.append_nil], hname, hlegible⟩
  · rintro ⟨rfl, hname, hlegible⟩
    exact ⟨name, _, rfl, hname, v, _, [], (List.append_nil _).symm, ⟨rfl, hlegible⟩, rfl, rfl⟩

/-- An annotation is read by a reader of its values. -/
theorem AnnotationUse.accepted_decodeWith
    (h : ∀ {v bytes}, value.Accepted v bytes ↔ bytes = v.spelling ∧ v.Legible pool depth)
    {use : AnnotationUse} :
    (AnnotationUse.decodeWith pool value).Accepted use bytes ↔
      bytes = use.spelling ∧ use.Legible pool depth := by
  obtain ⟨typeIndex, elements⟩ := use
  rw [AnnotationUse.decodeWith, bind_eq_bind, accepted_decodeUtf8Index_bind, spelling, legible_iff,
    Element.spellings_eq]
  simp only [bind_eq_bind, pure_eq_done, accepted_bind, accepted_done,
    accepted_counted (Element.accepted_decode h), Spelling.counted_eq_flatMap]
  constructor
  · rintro ⟨_, _, rfl, htype, _, _, _, rfl, ⟨⟨hlength, rfl⟩, helements⟩, huse, rfl⟩
    obtain ⟨rfl, rfl⟩ := AnnotationUse.mk.inj huse
    exact ⟨by rw [List.append_nil], htype, hlength, helements⟩
  · rintro ⟨rfl, htype, hlength, helements⟩
    exact ⟨typeIndex, _, rfl, htype, elements, _, [], (List.append_nil _).symm,
      ⟨⟨hlength, rfl⟩, helements⟩, rfl, rfl⟩

end Readers

/-! ## Tags -/

theorem tagByte_tagChar (tag : UInt8) : tagByte (tagChar tag) = tag := by
  have hvalid : tag.toNat.isValidChar := .inl (Nat.lt_trans tag.toNat_lt (by decide))
  have hchar : (Char.ofNat tag.toNat).toNat = tag.toNat := by
    rw [Char.ofNat, dif_pos hvalid]
    rfl
  rw [tagByte, tagChar, hchar, UInt8.ofNat_toNat]

theorem ConstantKind.tag_of_ofTag? {tag : Char} {kind : ConstantKind} (h : ofTag? tag = some kind) :
    kind.tag = tag := by
  have hfound := List.find?_some (p := fun k : ConstantKind => k.tag == tag) h
  exact eq_of_beq hfound

/-! ## Element values -/

namespace ElementValue

variable {bytes : List UInt8}

theorem accepted_decodeConstant {tag : Char} {v : ElementValue} :
    (decodeConstant pool tag).Accepted v bytes ↔
      ∃ kind index, kind.tag = tag ∧ v = .constant kind index ∧ bytes = Bytes.ofWord16 index ∧
        (⟨.anyEntry, index⟩ : Reference).Holds pool := by
  simp only [Reference.holds_anyEntry]
  cases hkind : ConstantKind.ofTag? tag with
  | none =>
    simp only [decodeConstant, hkind, accepted_fail, false_iff]
    rintro ⟨kind, index, rfl, -⟩
    simp at hkind
  | some found =>
    simp only [decodeConstant, hkind, bind_eq_bind, pure_eq_done, accepted_word16_bind,
      accepted_ofExcept_bind, accepted_done]
    constructor
    · rintro ⟨index, _, rfl, entry, hentry, rfl, rfl⟩
      exact ⟨found, index, ConstantKind.tag_of_ofTag? hkind, rfl, List.append_nil _, entry, hentry⟩
    · rintro ⟨kind, index, rfl, rfl, rfl, entry, hentry⟩
      obtain rfl : kind = found := by simpa using hkind
      exact ⟨index, [], (List.append_nil _).symm, entry, hentry, rfl, rfl⟩

section Content

variable {value : Decoder ElementValue} {v : ElementValue}
  (h : ∀ {v bytes}, value.Accepted v bytes ↔ bytes = v.spelling ∧ v.Legible pool depth)

include h

/-- What follows a tag is accepted only if it and the tag spell a legible value. -/
theorem spelling_of_accepted_decodeContent {tag : UInt8}
    (hv : (decodeContent pool value (tagChar tag)).Accepted v bytes) :
    tag :: bytes = v.spelling ∧ v.Legible pool (depth + 1) := by
  have htag := tagByte_tagChar tag
  unfold decodeContent at hv
  split at hv <;> rename_i heq
  · simp only [bind_eq_bind, pure_eq_done, accepted_word16_bind, accepted_requireUtf8_bind,
      accepted_done] at hv
    obtain ⟨typeName, _, rfl, name, _, rfl, htype, hname, rfl, rfl⟩ := hv
    rw [← htag, heq, spelling, List.append_nil]
    exact ⟨rfl, trivial, by simp [height], by simp [references, htype, hname]⟩
  · simp only [bind_eq_bind, pure_eq_done, accepted_decodeUtf8Index_bind, accepted_done] at hv
    obtain ⟨index, _, rfl, hindex, rfl, rfl⟩ := hv
    rw [← htag, heq, spelling, List.append_nil]
    exact ⟨rfl, trivial, by simp [height], by simp [references, hindex]⟩
  · simp only [bind_eq_bind, pure_eq_done, accepted_bind, accepted_done,
      AnnotationUse.accepted_decodeWith h] at hv
    obtain ⟨use, _, _, rfl, ⟨rfl, hlegible⟩, rfl, rfl⟩ := hv
    rw [← htag, heq, spelling, List.append_nil]
    exact ⟨rfl, legible_nested.mpr hlegible⟩
  · simp only [bind_eq_bind, pure_eq_done, accepted_bind, accepted_done, accepted_counted h,
      Spelling.counted_eq_flatMap] at hv
    obtain ⟨values, _, _, rfl, ⟨⟨hlength, rfl⟩, hvalues⟩, rfl, rfl⟩ := hv
    rw [← htag, heq, spelling, spellings_eq, List.append_nil]
    exact ⟨rfl, legible_array.mpr ⟨hlength, hvalues⟩⟩
  · obtain ⟨kind, index, hkind, rfl, rfl, hindex⟩ := accepted_decodeConstant.mp hv
    rw [← htag, ← hkind, spelling]
    exact ⟨rfl, trivial, by simp [height], by simp [references, hindex]⟩

/-- What follows the tag of a legible value in its spelling is accepted. -/
theorem accepted_decodeContent_of_spelling {tag : UInt8} (hspelling : tag :: bytes = v.spelling)
    (hlegible : v.Legible pool (depth + 1)) :
    (decodeContent pool value (tagChar tag)).Accepted v bytes := by
  have hholds := hlegible.2.2
  cases v with
  | constant kind index =>
    obtain ⟨rfl, rfl⟩ := List.cons.inj hspelling
    have hcontent : decodeContent pool value (tagChar (tagByte kind.tag)) =
        decodeConstant pool kind.tag := by
      cases kind <;> rfl
    rw [hcontent, accepted_decodeConstant]
    exact ⟨kind, index, rfl, rfl, rfl, by simpa [references] using hholds⟩
  | enumConstant typeName name =>
    obtain ⟨rfl, rfl⟩ := List.cons.inj hspelling
    simp only [references, List.forall_mem_cons] at hholds
    obtain ⟨htype, hname, -⟩ := hholds
    show (decodeContent pool value 'e').Accepted _ _
    simp only [decodeContent, bind_eq_bind, pure_eq_done, accepted_word16_bind,
      accepted_requireUtf8_bind, accepted_done]
    exact ⟨typeName, _, rfl, name, [], (List.append_nil _).symm, htype, hname, rfl, rfl⟩
  | classLiteral index =>
    obtain ⟨rfl, rfl⟩ := List.cons.inj hspelling
    rw [references, List.forall_mem_singleton] at hholds
    show (decodeContent pool value 'c').Accepted _ _
    simp only [decodeContent, bind_eq_bind, pure_eq_done, accepted_decodeUtf8Index_bind,
      accepted_done]
    exact ⟨index, [], (List.append_nil _).symm, hholds, rfl, rfl⟩
  | nested use =>
    obtain ⟨rfl, rfl⟩ := List.cons.inj hspelling
    have huse := legible_nested.mp hlegible
    show (decodeContent pool value '@').Accepted _ _
    simp only [decodeContent, bind_eq_bind, pure_eq_done, accepted_bind, accepted_done,
      AnnotationUse.accepted_decodeWith h]
    exact ⟨use, _, [], (List.append_nil _).symm, ⟨rfl, huse⟩, rfl, rfl⟩
  | array values =>
    obtain ⟨rfl, rfl⟩ := List.cons.inj hspelling
    obtain ⟨hlength, hvalues⟩ := legible_array.mp hlegible
    show (decodeContent pool value '[').Accepted _ _
    simp only [decodeContent, bind_eq_bind, pure_eq_done, accepted_bind, accepted_done,
      accepted_counted h, Spelling.counted_eq_flatMap, spellings_eq]
    exact ⟨values, _, [], (List.append_nil _).symm, ⟨⟨hlength, rfl⟩, hvalues⟩, rfl, rfl⟩

end Content

/-- An element value is accepted from the bytes that spell it, provided that it is
legible. -/
theorem accepted_decode {v : ElementValue} :
    (ElementValue.decode pool depth).Accepted v bytes ↔
      bytes = v.spelling ∧ v.Legible pool depth := by
  induction depth generalizing v bytes with
  | zero =>
    have hheight : v.height ≠ 0 := by
      cases v <;> simp [height]
    simp only [ElementValue.decode, accepted_fail, Legible, Nat.le_zero, false_iff]
    rintro ⟨-, -, hzero, -⟩
    exact hheight hzero
  | succ depth ih =>
    rw [ElementValue.decode, bind_eq_bind, accepted_byte_bind]
    constructor
    · rintro ⟨tag, body, rfl, hbody⟩
      exact spelling_of_accepted_decodeContent ih hbody
    · rintro ⟨rfl, hlegible⟩
      obtain ⟨tag, body, hspelling⟩ : ∃ tag body, v.spelling = tag :: body := by
        cases v <;> exact ⟨_, _, rfl⟩
      exact ⟨tag, body, hspelling, accepted_decodeContent_of_spelling ih hspelling.symm hlegible⟩

end ElementValue

/-! ## Payloads -/

namespace AnnotationUse

theorem accepted_decodeAll {uses : List AnnotationUse} {bytes : List UInt8} :
    (AnnotationUse.decodeAll pool).Accepted uses bytes ↔
      (uses.length < 0x10000 ∧ bytes = payload uses) ∧ ∀ use ∈ uses, use.Legible pool maxDepth := by
  rw [AnnotationUse.decodeAll, accepted_counted (accepted_decodeWith ElementValue.accepted_decode),
    Spelling.counted_eq_flatMap, payload]

/-- The annotations that a payload opens with are legible. -/
theorem legible_of_ofPayload {bytes : List UInt8} {uses : List AnnotationUse}
    (h : AnnotationUse.ofPayload pool bytes = .ok uses) :
    ∀ use ∈ uses, use.Legible pool maxDepth := by
  obtain ⟨front, -, haccepted⟩ := accepted_of_run h
  exact (accepted_decodeAll.mp haccepted).2

end AnnotationUse

end ClassOutline
