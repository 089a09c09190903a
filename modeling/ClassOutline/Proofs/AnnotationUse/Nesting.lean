/-
  Proofs/AnnotationUse/Nesting.lean --- which payloads nest too deep.

  A payload is refused for its depth just if it opens with a path of containers,
  arrays and annotations one in the other, that leads to a value deeper than is
  allowed.  Everything beside the path is complete and sound: the annotations before
  the one that it enters, and in each container the items or elements before the one
  that it goes on in.  What stands where the path ends is not looked at.
-/
import ClassOutline.Proofs.AnnotationUse.Payload
import ClassOutline.Proofs.Decoder.Refused

set_option autoImplicit false

namespace ClassOutline

open Decoder

variable {pool : ConstantPool} {levels limit : Nat} {bytes : List UInt8}

/-! ## Paths -/

/-- Bytes that open an annotation and lead to the value of one of its elements:
fewer complete elements than are counted, and the name of the next one.  Below the
annotation `levels` values may nest. -/
inductive AnnotationUse.Opens (pool : ConstantPool) (levels : Nat) : List UInt8 → Prop
  | element {typeIndex count name : UInt16} {elements : List Element}
      (htype : (⟨.text, typeIndex⟩ : Reference).Holds pool)
      (hcount : elements.length < count.toNat)
      (helements : ∀ e ∈ elements,
        (⟨.text, e.name⟩ : Reference).Holds pool ∧ e.value.Legible pool levels)
      (hname : (⟨.text, name⟩ : Reference).Holds pool) :
      Opens pool levels (Bytes.ofWord16 typeIndex ++ (Bytes.ofWord16 count ++
        (Element.spellings elements ++ Bytes.ofWord16 name)))

/-- Bytes that open `levels` containers, one in the other, and lead to the value
that is next in the innermost one.  At the outermost container `levels` values may
nest, itself counted. -/
inductive ElementValue.Descends (pool : ConstantPool) : (levels : Nat) → List UInt8 → Prop
  | here : Descends pool 0 []
  | array {levels : Nat} {count : UInt16} {values : List ElementValue} {inner : List UInt8}
      (hcount : values.length < count.toNat) (hvalues : ∀ v ∈ values, v.Legible pool levels)
      (hinner : Descends pool levels inner) :
      Descends pool (levels + 1)
        (tagByte '[' :: (Bytes.ofWord16 count ++ (ElementValue.spellings values ++ inner)))
  | nested {levels : Nat} {opening inner : List UInt8}
      (hopening : AnnotationUse.Opens pool levels opening) (hinner : Descends pool levels inner) :
      Descends pool (levels + 1) (tagByte '@' :: (opening ++ inner))

/-- Bytes that open a payload and lead to the value of an element of one of its
annotations, behind fewer complete annotations than are counted. -/
inductive AnnotationUse.PayloadOpens (pool : ConstantPool) : List UInt8 → Prop
  | use {count : UInt16} {uses : List AnnotationUse} {opening : List UInt8}
      (hcount : uses.length < count.toNat) (huses : ∀ use ∈ uses, use.Legible pool maxDepth)
      (hopening : AnnotationUse.Opens pool maxDepth opening) :
      PayloadOpens pool (Bytes.ofWord16 count ++ (uses.flatMap AnnotationUse.spelling ++ opening))

/-! ## Look-ups

No look-up fails for the depth of a value. -/

theorem ConstantPool.get_ne_nestedTooDeep (index : UInt16) :
    pool.get index ≠ .error (.nestedTooDeep limit) := by
  intro h
  have hrange := (ConstantPool.get_eq_error_iff.mp h).2
  cases hrange

theorem ConstantPool.utf8_ne_nestedTooDeep (index : UInt16) :
    pool.utf8 index ≠ .error (.nestedTooDeep limit) := by
  intro h
  unfold ConstantPool.utf8 at h
  split at h
  · cases h
  · cases h
  · rename_i e hget
    obtain rfl := Except.error.inj h
    exact ConstantPool.get_ne_nestedTooDeep index hget

theorem refused_requireUtf8_bind {β : Type} {index : UInt16} {f : Unit → Decoder β} :
    ((requireUtf8 pool index).bind f).Refused (.nestedTooDeep limit) bytes ↔
      (⟨.text, index⟩ : Reference).Holds pool ∧ (f ()).Refused (.nestedTooDeep limit) bytes := by
  rw [Reference.holds_text, requireUtf8]
  cases hfound : pool.utf8 index with
  | ok text => simp [Decoder.ofExcept, Decoder.bind]
  | error e =>
    have he : .nestedTooDeep limit ≠ e := by
      intro heq
      rw [← heq] at hfound
      exact ConstantPool.utf8_ne_nestedTooDeep index hfound
    simp [Decoder.ofExcept, Decoder.bind, Decoder.Refused, he]

theorem refused_decodeUtf8Index_bind {β : Type} {f : UInt16 → Decoder β} :
    ((decodeUtf8Index pool).bind f).Refused (.nestedTooDeep limit) bytes ↔
      ∃ index back, bytes = Bytes.ofWord16 index ++ back ∧
        (⟨.text, index⟩ : Reference).Holds pool ∧
          (f index).Refused (.nestedTooDeep limit) back := by
  refine refused_bind_of_good accepted_decodeUtf8Index ?_
  intro bytes h
  rw [decodeUtf8Index, bind_eq_bind, refused_word16_bind] at h
  obtain ⟨index, back, -, hrefused⟩ := h
  rw [bind_eq_bind, refused_requireUtf8_bind] at hrefused
  exact hrefused.2

/-! ## Annotations -/

section Readers

variable {value : Decoder ElementValue}

theorem Element.refused_decode :
    (Element.decode pool value).Refused (.nestedTooDeep limit) bytes ↔
      ∃ name inner, bytes = Bytes.ofWord16 name ++ inner ∧
        (⟨.text, name⟩ : Reference).Holds pool ∧ value.Refused (.nestedTooDeep limit) inner := by
  rw [Element.decode, bind_eq_bind, refused_decodeUtf8Index_bind]
  simp only [bind_eq_bind, pure_eq_done, refused_bind_done]

/-- An annotation is refused for the depth of a value that its opening leads to. -/
theorem AnnotationUse.refused_decodeWith
    (h : ∀ {v bytes}, value.Accepted v bytes ↔ bytes = v.spelling ∧ v.Legible pool levels) :
    (AnnotationUse.decodeWith pool value).Refused (.nestedTooDeep limit) bytes ↔
      ∃ opening inner, bytes = opening ++ inner ∧ AnnotationUse.Opens pool levels opening ∧
        value.Refused (.nestedTooDeep limit) inner := by
  rw [AnnotationUse.decodeWith, bind_eq_bind, refused_decodeUtf8Index_bind]
  simp only [bind_eq_bind, pure_eq_done, refused_bind_done,
    refused_counted (Element.accepted_decode h), Element.refused_decode]
  constructor
  · intro hrefused
    obtain ⟨typeIndex, _, rfl, htype, count, elements, _, rfl, hcount, helements, name, inner, rfl,
      hname, hinner⟩ := hrefused
    refine ⟨_, inner, ?_, .element htype hcount helements hname, hinner⟩
    rw [Element.spellings_eq]
    simp only [List.append_assoc]
  · intro hopens
    obtain ⟨_, inner, rfl, hopening, hinner⟩ := hopens
    obtain ⟨htype, hcount, helements, hname⟩ := hopening
    refine ⟨_, _, ?_, htype, _, _, _, rfl, hcount, helements, _, inner, rfl, hname, hinner⟩
    rw [Element.spellings_eq]
    simp only [List.append_assoc]

end Readers

/-! ## Element values -/

namespace ElementValue

section Content

variable {value : Decoder ElementValue}

theorem not_refused_decodeConstant {tag : Char} :
    ¬ (decodeConstant pool tag).Refused (.nestedTooDeep limit) bytes := by
  intro h
  unfold decodeConstant at h
  split at h
  · rw [bind_eq_bind, refused_word16_bind] at h
    obtain ⟨index, back, -, hrefused⟩ := h
    rw [bind_eq_bind, refused_ofExcept_bind] at hrefused
    rcases hrefused with ⟨hget, -⟩ | ⟨entry, -, hdone⟩
    · exact ConstantPool.get_ne_nestedTooDeep index hget
    · exact hdone
  · cases h.1

/-- What follows a tag is refused for the depth of a value only if the tag is that
of a container and the value lies in it. -/
theorem refused_decodeContent
    (h : ∀ {v bytes}, value.Accepted v bytes ↔ bytes = v.spelling ∧ v.Legible pool levels)
    {tag : UInt8} :
    (decodeContent pool value (tagChar tag)).Refused (.nestedTooDeep limit) bytes ↔
      (tag = tagByte '@' ∧ ∃ opening inner, bytes = opening ++ inner ∧
        AnnotationUse.Opens pool levels opening ∧ value.Refused (.nestedTooDeep limit) inner) ∨
      tag = tagByte '[' ∧ ∃ (count : UInt16) (values : List ElementValue) (inner : List UInt8),
        bytes = Bytes.ofWord16 count ++ (spellings values ++ inner) ∧
          values.length < count.toNat ∧ (∀ v ∈ values, v.Legible pool levels) ∧
          value.Refused (.nestedTooDeep limit) inner := by
  constructor
  · intro hrefused
    have htag := tagByte_tagChar tag
    unfold decodeContent at hrefused
    split at hrefused <;> rename_i heq
    · simp only [bind_eq_bind, pure_eq_done, refused_word16_bind,
        refused_requireUtf8_bind] at hrefused
      obtain ⟨_, _, -, _, _, -, -, -, hdone⟩ := hrefused
      exact hdone.elim
    · simp only [bind_eq_bind, pure_eq_done, refused_decodeUtf8Index_bind] at hrefused
      obtain ⟨_, _, -, -, hdone⟩ := hrefused
      exact hdone.elim
    · simp only [bind_eq_bind, pure_eq_done, refused_bind_done,
        AnnotationUse.refused_decodeWith h] at hrefused
      rw [heq] at htag
      exact .inl ⟨htag.symm, hrefused⟩
    · simp only [bind_eq_bind, pure_eq_done, refused_bind_done, refused_counted h,
        ← spellings_eq] at hrefused
      rw [heq] at htag
      exact .inr ⟨htag.symm, hrefused⟩
    · exact absurd hrefused not_refused_decodeConstant
  · intro hcontainer
    rcases hcontainer with ⟨rfl, hopens⟩ | ⟨rfl, hitems⟩
    · show (decodeContent pool value '@').Refused _ _
      simp only [decodeContent, bind_eq_bind, pure_eq_done, refused_bind_done,
        AnnotationUse.refused_decodeWith h]
      exact hopens
    · show (decodeContent pool value '[').Refused _ _
      simp only [decodeContent, bind_eq_bind, pure_eq_done, refused_bind_done, refused_counted h,
        ← spellings_eq]
      exact hitems

end Content

/-- A value is refused for its depth just where a path of containers leads as deep as
values may nest. -/
theorem refused_decode :
    (ElementValue.decode pool levels).Refused (.nestedTooDeep maxDepth) bytes ↔
      Descends pool levels bytes := by
  induction levels generalizing bytes with
  | zero =>
    constructor
    · intro hrefused
      rw [hrefused.2]
      exact .here
    · intro hdescends
      cases hdescends
      exact ⟨rfl, rfl⟩
  | succ levels ih =>
    rw [ElementValue.decode, bind_eq_bind, refused_byte_bind]
    simp only [refused_decodeContent accepted_decode, ih]
    constructor
    · intro hrefused
      obtain ⟨_, _, rfl, hcontent⟩ := hrefused
      rcases hcontent with ⟨rfl, opening, inner, rfl, hopening, hinner⟩ |
        ⟨rfl, count, values, inner, rfl, hcount, hvalues, hinner⟩
      · exact .nested hopening hinner
      · exact .array hcount hvalues hinner
    · intro hdescends
      cases hdescends with
      | array hcount hvalues hinner =>
        exact ⟨_, _, rfl, .inr ⟨rfl, _, _, _, rfl, hcount, hvalues, hinner⟩⟩
      | nested hopening hinner => exact ⟨_, _, rfl, .inl ⟨rfl, _, _, rfl, hopening, hinner⟩⟩

/-- Whether no value lies directly in a value: it is an empty array, an annotation
without elements, or no container at all. -/
def HoldsNoValue : ElementValue → Prop
  | .nested use => use.elements = []
  | .array values => values = []
  | _ => True

/-- A value with another one in it is at least two high. -/
theorem holdsNoValue_of_height_le_one {v : ElementValue} (h : v.height ≤ 1) : v.HoldsNoValue := by
  cases v with
  | constant kind index => trivial
  | enumConstant typeName constantName => trivial
  | classLiteral index => trivial
  | nested use =>
    obtain ⟨typeIndex, elements⟩ := use
    have hlow := Element.heights_le_iff.mp (Nat.le_of_succ_le_succ h)
    apply List.eq_nil_iff_forall_not_mem.mpr
    intro e he
    exact Nat.not_succ_le_zero _ (Nat.le_trans e.value.height_pos (hlow e he))
  | array values =>
    have hlow := ElementValue.heights_le_iff.mp (Nat.le_of_succ_le_succ h)
    apply List.eq_nil_iff_forall_not_mem.mpr
    intro v hv
    exact Nat.not_succ_le_zero _ (Nat.le_trans v.height_pos (hlow v hv))

/-! ### Containers of any depth -/

/-- Arrays, one in the other, around an empty one. -/
def arrays : (levels : Nat) → ElementValue
  | 0 => .array []
  | levels + 1 => .array [arrays levels]

theorem legible_arrays {pool : ConstantPool} (levels : Nat) :
    (arrays levels).Legible pool (levels + 1) := by
  induction levels with
  | zero => exact legible_array.mpr ⟨by decide, List.forall_mem_nil _⟩
  | succ levels ih =>
    have hlength : [arrays levels].length < 0x10000 := by
      rw [List.length_singleton]
      decide
    exact legible_array.mpr ⟨hlength, List.forall_mem_singleton.mpr ih⟩

/-- Bytes that open arrays and annotations in turn.  Each array holds an empty one
beside what follows. -/
def turns : Nat → List UInt8
  | 0 => []
  | n + 1 => [0x5B, 0, 2, 0x5B, 0, 0, 0x40, 0, 1, 0, 1, 0, 1] ++ turns n

theorem descends_turns (n : Nat) : Descends ClassFile.samplePool (2 * n) (turns n) := by
  induction n with
  | zero => exact .here
  | succ n ih =>
    have hopening : AnnotationUse.Opens ClassFile.samplePool (2 * n) [0, 1, 0, 1, 0, 1] :=
      @AnnotationUse.Opens.element _ _ 1 1 1 [] rfl (by decide) (List.forall_mem_nil _) rfl
    have hbeside : ∀ v ∈ [arrays 0], v.Legible ClassFile.samplePool (2 * n + 1) := by
      intro v hv
      rw [List.mem_singleton.mp hv]
      exact legible_array.mpr ⟨by decide, List.forall_mem_nil _⟩
    exact @Descends.array _ _ 2 [arrays 0] _ (by decide) hbeside (.nested hopening ih)

end ElementValue

/-! ## Payloads -/

namespace AnnotationUse

variable {use : AnnotationUse}

theorem refused_decodeAll :
    (AnnotationUse.decodeAll pool).Refused (.nestedTooDeep maxDepth) bytes ↔
      ∃ opening path, bytes = opening ++ path ∧ PayloadOpens pool opening ∧
        ElementValue.Descends pool maxDepth path := by
  rw [AnnotationUse.decodeAll, refused_counted (accepted_decodeWith ElementValue.accepted_decode)]
  simp only [refused_decodeWith ElementValue.accepted_decode, ElementValue.refused_decode]
  constructor
  · intro hrefused
    obtain ⟨count, uses, _, rfl, hcount, huses, opening, path, rfl, hopening, hpath⟩ := hrefused
    refine ⟨_, path, ?_, .use hcount huses hopening, hpath⟩
    simp only [List.append_assoc]
  · intro hopens
    obtain ⟨_, path, rfl, hopening, hpath⟩ := hopens
    obtain ⟨hcount, huses, hopening⟩ := hopening
    refine ⟨_, _, _, ?_, hcount, huses, _, path, rfl, hopening, hpath⟩
    simp only [List.append_assoc]

theorem ofPayload_eq_nestedTooDeep_iff :
    ofPayload pool bytes = .error (.nestedTooDeep maxDepth) ↔
      ∃ opening path rest, bytes = opening ++ (path ++ rest) ∧ PayloadOpens pool opening ∧
        ElementValue.Descends pool maxDepth path := by
  rw [ofPayload, result_run_eq_error_iff (by decide)]
  simp only [refused_decodeAll]
  constructor
  · intro h
    obtain ⟨_, rest, rfl, opening, path, rfl, hopening, hpath⟩ := h
    exact ⟨opening, path, rest, List.append_assoc _ _ _, hopening, hpath⟩
  · intro h
    obtain ⟨opening, path, rest, rfl, hopening, hpath⟩ := h
    exact ⟨opening ++ path, rest, (List.append_assoc _ _ _).symm, opening, path, rfl, hopening,
      hpath⟩

/-- A value that is not the outermost one lies in a value one level above it. -/
theorem ValueAt.exists_above {depth : Nat} {v : ElementValue} (h : use.ValueAt (depth + 2) v) :
    ∃ above, use.ValueAt (depth + 1) above ∧ ¬ above.HoldsNoValue := by
  cases h with
  | item harray hv =>
    refine ⟨_, harray, ?_⟩
    intro hempty
    rw [ElementValue.HoldsNoValue] at hempty
    rw [hempty] at hv
    cases hv
  | nested hinner he =>
    refine ⟨_, hinner, ?_⟩
    intro hempty
    rw [ElementValue.HoldsNoValue] at hempty
    rw [hempty] at he
    cases he

/-- Where no value at a depth holds another one, none lies deeper. -/
theorem depth_le_of_holdsNoValue {deepest : Nat}
    (h : ∀ v, use.ValueAt (deepest + 1) v → v.HoldsNoValue) {depth : Nat} {v : ElementValue}
    (hv : use.ValueAt depth v) : depth ≤ deepest + 1 := by
  apply Nat.le_of_not_lt
  intro hdeeper
  obtain ⟨more, rfl⟩ : ∃ more, depth = deepest + more + 2 := ⟨depth - deepest - 2, by omega⟩
  clear hdeeper
  induction more generalizing v with
  | zero =>
    obtain ⟨above, habove, hholds⟩ := hv.exists_above
    exact hholds (h above habove)
  | succ more ih =>
    obtain ⟨above, habove, -⟩ := hv.exists_above
    exact ih habove

/-- A payload is refused for its depth just if it opens with a path of 64 containers,
one in the other.  This is so whatever stands where the path ends, and nothing else is
reported there: an element value, bytes that are none, or the end of the payload.
Containers at the greatest depth that hold no value are not refused. -/
theorem ofPayload_nestedTooDeep_exact (pool : ConstantPool) :
    (∀ bytes, ofPayload pool bytes = .error (.nestedTooDeep 64) ↔
      ∃ opening path rest, bytes = opening ++ (path ++ rest) ∧ PayloadOpens pool opening ∧
        ElementValue.Descends pool 64 path) ∧
    (∀ opening path, PayloadOpens pool opening → ElementValue.Descends pool 64 path → ∀ rest,
      ofPayload pool (opening ++ (path ++ rest)) ≠ .error .truncated ∧
        ∀ tag, ofPayload pool (opening ++ (path ++ rest)) ≠ .error (.unsupportedValueTag tag)) ∧
    ∀ uses, uses.length < 0x10000 → (∀ use ∈ uses, use.Fits) →
      (∀ use ∈ uses, ∀ r ∈ use.references, r.Holds pool) →
      (∀ use ∈ uses, ∀ v, use.ValueAt 64 v → v.HoldsNoValue) →
      ∀ rest, ofPayload pool (payload uses ++ rest) = .ok uses := by
  refine ⟨?_, ?_, ?_⟩
  · intro bytes
    exact ofPayload_eq_nestedTooDeep_iff
  · intro opening path hopening hpath rest
    have hdeep := ofPayload_eq_nestedTooDeep_iff.mpr ⟨opening, path, rest, rfl, hopening, hpath⟩
    rw [hdeep]
    refine ⟨?_, ?_⟩
    · intro h
      cases h
    · intro tag h
      cases h
  · intro uses hlength hfits hreferences hempty rest
    refine ofPayload_eq_ok_iff.mpr ⟨⟨hlength, hfits, ?_, hreferences⟩, rest, rfl⟩
    intro use huse depth v hv
    exact depth_le_of_holdsNoValue (hempty use huse) hv

/-- Where 64 containers are open, the payload may end or go on with what is no tag;
and arrays may be 64 deep. -/
theorem ofPayload_at_greatest_depth :
    ofPayload ClassFile.samplePool ([0, 1, 0, 1, 0, 1, 0, 1] ++ (ElementValue.turns 32 ++ [])) =
        .error (.nestedTooDeep 64) ∧
      ofPayload ClassFile.samplePool
        ([0, 1, 0, 1, 0, 1, 0, 1] ++ (ElementValue.turns 32 ++ [0x3F])) ≠
          .error (.unsupportedValueTag '?') ∧
      ofPayload ClassFile.samplePool (payload [⟨1, [⟨1, ElementValue.arrays 63⟩]⟩] ++ [0xFF]) =
        .ok [⟨1, [⟨1, ElementValue.arrays 63⟩]⟩] := by
  obtain ⟨hdeep, hnothing, hempty⟩ := ofPayload_nestedTooDeep_exact ClassFile.samplePool
  have hopening : PayloadOpens ClassFile.samplePool [0, 1, 0, 1, 0, 1, 0, 1] :=
    @PayloadOpens.use _ 1 [] _ (by decide) (List.forall_mem_nil _)
      (@Opens.element _ _ 1 1 1 [] rfl (by decide) (List.forall_mem_nil _) rfl)
  have hpath := ElementValue.descends_turns 32
  refine ⟨(hdeep _).mpr ⟨_, _, [], rfl, hopening, hpath⟩,
    (hnothing _ _ hopening hpath [0x3F]).2 '?', ?_⟩
  have hlegible : Legible ClassFile.samplePool 64 ⟨1, [⟨1, ElementValue.arrays 63⟩]⟩ :=
    legible_iff.mpr ⟨rfl, by decide,
      List.forall_mem_singleton.mpr ⟨rfl, ElementValue.legible_arrays 63⟩⟩
  obtain ⟨hfits, hheight, hholds⟩ := hlegible
  refine hempty _ (by decide) (List.forall_mem_singleton.mpr hfits)
    (List.forall_mem_singleton.mpr hholds) (List.forall_mem_singleton.mpr ?_) [0xFF]
  intro v hv
  have hlow := hv.add_height_le
  exact ElementValue.holdsNoValue_of_height_le_one (by omega)

end AnnotationUse

end ClassOutline
