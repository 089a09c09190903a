/-
  Proofs/ClassFile/Resolution.lean --- a decoded class file holds no dangling
  reference.

  Every index was looked up when it was read, so every look-up of the same index
  succeeds later on.  In the text of a decoded class file only one thing can be
  missing: a constant whose entry is of another kind than its tag demands.
-/
import ClassOutline.Proofs.ClassFile.RoundTrip
import ClassOutline.Proofs.ClassFile.Shown

set_option autoImplicit false

namespace ClassOutline

variable {pool : ConstantPool}

/-! ## References that hold -/

theorem Attribute.references_hold {a : Attribute} (hnamed : a.Named pool)
    (hannotated : a.Annotated pool) : ∀ r ∈ a.references, r.Holds pool := by
  rw [Attribute.references, List.forall_mem_cons, List.forall_mem_flatMap]
  refine ⟨Reference.holds_text.mpr hnamed, ?_⟩
  intro use huse
  cases hannotations : a.annotations with
  | none => simp [hannotations] at huse
  | some uses =>
    rw [hannotations, Option.getD_some] at huse
    have hlegible := AnnotationUse.legible_of_ofPayload (hannotated.2 uses hannotations)
    exact (hlegible use huse).2.2

theorem Member.references_hold {d : Declaration} {member : Member d} (hnamed : member.Named pool)
    (hattributes : ∀ a ∈ member.attributes, ∀ r ∈ a.references, r.Holds pool) :
    ∀ r ∈ member.references, r.Holds pool := by
  rw [Member.references, List.forall_mem_cons, List.forall_mem_cons, List.forall_mem_flatMap]
  exact ⟨Reference.holds_text.mpr hnamed.1, Reference.holds_text.mpr hnamed.2, hattributes⟩

namespace ClassFile

variable {c : ClassFile}

theorem references_hold (hnamed : c.Named) (hannotated : c.Annotated) :
    ∀ r ∈ c.references, r.Holds c.pool := by
  obtain ⟨hfields, hmethods, hattributes⟩ := forall_mem_everyAttribute.mp fun a ha =>
    Attribute.references_hold (hnamed.attributes a ha) (hannotated a ha)
  simp only [references, List.forall_mem_append, List.forall_mem_flatMap, List.forall_mem_map,
    List.forall_mem_singleton, Reference.holds_className]
  refine ⟨⟨⟨⟨⟨hnamed.thisClass, ?_⟩, hnamed.interfaces⟩, ?_⟩, ?_⟩, hattributes⟩
  · split
    · simp
    · rename_i hsuper
      rw [List.forall_mem_singleton, Reference.holds_className]
      exact hnamed.superClass hsuper
  · intro field hfield
    exact Member.references_hold (hnamed.fields field hfield) (hfields field hfield)
  · intro method hmethod
    exact Member.references_hold (hnamed.methods method hmethod) (hmethods method hmethod)

/-! ## Names -/

theorem exists_superClassName (hnamed : c.Named) :
    ∃ found, c.superClassName = .ok found ∧ (found = none ↔ c.superClass = 0) := by
  unfold superClassName
  by_cases hsuper : c.superClass = 0
  · exact ⟨none, by rw [if_pos hsuper], by simp [hsuper]⟩
  · obtain ⟨name, hname⟩ := hnamed.superClass hsuper
    refine ⟨some name, ?_, by simp [hsuper]⟩
    rw [if_neg hsuper, hname]
    rfl

/-- Names can be looked up together if each of them can be looked up. -/
theorem exists_mapM_className {indices : List UInt16}
    (h : ∀ index ∈ indices, ∃ name, pool.className index = .ok name) :
    ∃ names, indices.mapM pool.className = .ok names := by
  induction indices with
  | nil => exact ⟨[], rfl⟩
  | cons index rest ih =>
    obtain ⟨hindex, hrest⟩ := List.forall_mem_cons.mp h
    obtain ⟨name, hname⟩ := hindex
    obtain ⟨names, hnames⟩ := ih hrest
    refine ⟨name :: names, ?_⟩
    rw [List.mapM_cons, hname, hnames]
    rfl

/-! ## Decoded class files -/

/-- Of a decoded class file, every name and every reference can be looked up.  Its
text shows nothing in the place of a name, and something in the place of a
constant just if the entry of the constant is of another kind than its tag
demands. -/
theorem resolved_of_decode {bytes : List UInt8} (h : decode bytes = .ok c) :
    (∃ name, c.className = .ok name) ∧
      (∃ found, c.superClassName = .ok found ∧ (found = none ↔ c.superClass = 0)) ∧
      (∃ names, c.interfaceNames = .ok names) ∧
      (∀ field ∈ c.fields, field.Named c.pool) ∧
      (∀ method ∈ c.methods, method.Named c.pool) ∧
      (∀ a ∈ c.everyAttribute, a.Named c.pool ∧
        ∀ use ∈ a.annotations.getD [], ∀ r ∈ use.references, r.Holds c.pool) ∧
      (∀ kind index, (kind, index) ∈ c.constants → ∃ entry, c.pool.get index = .ok entry ∧
        ((∀ legend : Legend, legend.pool = c.pool →
          constantText legend kind index = legend.missingConstant index) ↔
            entry.kind ≠ kind.entryKind)) ∧
      ∀ legend : Legend, legend.pool = c.pool →
        (∀ kind index entry, (kind, index) ∈ c.constants → c.pool.get index = .ok entry →
          entry.kind ≠ kind.entryKind → legend.missingConstant index = Entry.indexText index) →
        c.renderWith legend = c.render := by
  obtain ⟨hc, -⟩ := legible_and_spelled_of_decode h
  have hnamed := hc.named
  have hholds := references_hold hnamed hc.annotated
  refine ⟨hnamed.thisClass, exists_superClassName hnamed, exists_mapM_className hnamed.interfaces,
    hnamed.fields, hnamed.methods, ?_, ?_, ?_⟩
  · intro a ha
    refine ⟨hnamed.attributes a ha, ?_⟩
    have hreferences := Attribute.references_hold (hnamed.attributes a ha) (hc.annotated a ha)
    intro use huse r hr
    exact hreferences r (List.mem_cons_of_mem _ (List.mem_flatMap.mpr ⟨use, huse, hr⟩))
  · intro kind index hconstant
    obtain ⟨entry, hget⟩ := exists_entry_of_mem_constants hholds hconstant
    exact ⟨entry, hget, constantText_eq_missing_iff hget⟩
  · intro legend hpool hmissing
    exact renderWith_eq_render hpool hholds hmissing

theorem sampleClass_resolved :
    decode sampleBytes = .ok sampleClass ∧ (∃ name, sampleClass.className = .ok name) ∧
      sampleClass.renderWith ⟨samplePool, fun _ => "?", Entry.indexText⟩ = sampleClass.render := by
  obtain ⟨hclass, -, -, -, -, -, -, hrender⟩ := resolved_of_decode decode_sampleBytes
  refine ⟨decode_sampleBytes, hclass, ?_⟩
  exact hrender ⟨samplePool, fun _ => "?", Entry.indexText⟩ rfl fun _ _ _ _ _ _ => rfl

end ClassFile

end ClassOutline
