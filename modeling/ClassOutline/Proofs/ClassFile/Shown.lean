/-
  Proofs/ClassFile/Shown.lean --- what the text of a class file depends on.

  A class file whose references hold is shown alike by all legends of its pool
  that show the constants in its annotations alike.
-/
import ClassOutline.ClassFile.Render
import ClassOutline.Proofs.AnnotationUse.Shown

set_option autoImplicit false

namespace ClassOutline

/-! ## Constants -/

/-- The constants in the annotations of an attribute. -/
def Attribute.constants (a : Attribute) : List (ConstantKind × UInt16) :=
  (a.annotations.getD []).flatMap AnnotationUse.constants

/-- The constants in the annotations of a field or method. -/
def Member.constants {d : Declaration} (member : Member d) : List (ConstantKind × UInt16) :=
  member.attributes.flatMap Attribute.constants

/-- The constants in all the annotations of a class file. -/
def ClassFile.constants (c : ClassFile) : List (ConstantKind × UInt16) :=
  c.fields.flatMap Member.constants ++ c.methods.flatMap Member.constants ++
    c.attributes.flatMap Attribute.constants

theorem Attribute.anyEntry_mem_references {a : Attribute} {kind : ConstantKind} {index : UInt16}
    (h : (kind, index) ∈ a.constants) : (⟨.anyEntry, index⟩ : Reference) ∈ a.references := by
  obtain ⟨use, huse, hconstant⟩ := List.mem_flatMap.mp h
  refine List.mem_cons_of_mem _ (List.mem_flatMap.mpr ⟨use, huse, ?_⟩)
  exact AnnotationUse.anyEntry_mem_references hconstant

theorem Member.anyEntry_mem_references {d : Declaration} {member : Member d} {kind : ConstantKind}
    {index : UInt16} (h : (kind, index) ∈ member.constants) :
    (⟨.anyEntry, index⟩ : Reference) ∈ member.references := by
  obtain ⟨a, ha, hconstant⟩ := List.mem_flatMap.mp h
  refine List.mem_cons_of_mem _ (List.mem_cons_of_mem _ (List.mem_flatMap.mpr ⟨a, ha, ?_⟩))
  exact Attribute.anyEntry_mem_references hconstant

theorem ClassFile.anyEntry_mem_references {c : ClassFile} {kind : ConstantKind} {index : UInt16}
    (h : (kind, index) ∈ c.constants) : (⟨.anyEntry, index⟩ : Reference) ∈ c.references := by
  simp only [ClassFile.constants, List.mem_append, List.mem_flatMap] at h
  simp only [ClassFile.references, List.mem_append, List.mem_flatMap]
  rcases h with (⟨field, hfield, h⟩ | ⟨method, hmethod, h⟩) | ⟨a, ha, h⟩
  · exact .inl (.inl (.inr ⟨field, hfield, Member.anyEntry_mem_references h⟩))
  · exact .inl (.inr ⟨method, hmethod, Member.anyEntry_mem_references h⟩)
  · exact .inr ⟨a, ha, Attribute.anyEntry_mem_references h⟩

/-! ## Lines -/

section Lines

variable {l l' : Legend}

theorem annotationLines_eq {attributes : List Attribute} (indentation : String)
    (h : l.Agree l' (attributes.flatMap Attribute.references)
      (attributes.flatMap Attribute.constants)) :
    annotationLines l indentation attributes = annotationLines l' indentation attributes := by
  refine List.map_congr_left ?_
  intro use huse
  obtain ⟨a, ha, huse⟩ := List.mem_flatMap.mp huse
  have hagree : l.Agree l' use.references use.constants := by
    refine h.mono ?_ ?_
    · intro r hr
      refine List.mem_flatMap.mpr ⟨a, ha, List.mem_cons_of_mem _ ?_⟩
      exact List.mem_flatMap.mpr ⟨use, huse, hr⟩
    · intro x hx
      exact List.mem_flatMap.mpr ⟨a, ha, List.mem_flatMap.mpr ⟨use, huse, hx⟩⟩
  rw [AnnotationUse.text_eq hagree]

theorem fieldLine_eq {field : Member .field} (h : l.Agree l' field.references field.constants) :
    fieldLine l field = fieldLine l' field := by
  rw [Member.references] at h
  rw [fieldLine, fieldLine, h.typeText_eq (by simp), h.utf8Text_eq (by simp)]

theorem methodLine_eq {method : Member .method}
    (h : l.Agree l' method.references method.constants) :
    methodLine l method = methodLine l' method := by
  rw [Member.references] at h
  rw [methodLine, methodLine, h.utf8Text_eq (by simp), h.utf8Text_eq (by simp)]

/-- Members are shown alike if their own lines and their annotations are. -/
theorem memberLines_eq {d : Declaration} {line : Legend → Member d → String}
    {members : List (Member d)}
    (h : l.Agree l' (members.flatMap Member.references) (members.flatMap Member.constants))
    (hline : ∀ {member : Member d}, l.Agree l' member.references member.constants →
      line l member = line l' member) :
    memberLines l (line l) members = memberLines l' (line l') members := by
  rw [memberLines, memberLines, List.flatMap_def, List.flatMap_def]
  refine congrArg List.flatten (List.map_congr_left ?_)
  intro member hmember
  have hagree : l.Agree l' member.references member.constants := by
    refine h.mono ?_ ?_
    · intro r hr
      exact List.mem_flatMap.mpr ⟨member, hmember, hr⟩
    · intro x hx
      exact List.mem_flatMap.mpr ⟨member, hmember, hx⟩
  have hattributes : l.Agree l' (member.attributes.flatMap Attribute.references)
      (member.attributes.flatMap Attribute.constants) := by
    refine hagree.mono ?_ (List.Subset.refl _)
    intro r hr
    exact List.mem_cons_of_mem _ (List.mem_cons_of_mem _ hr)
  rw [hline hagree, annotationLines_eq "\t" hattributes]

namespace ClassFile

variable {c : ClassFile}

theorem declarationLines_eq (h : l.Agree l' c.references c.constants) :
    c.declarationLines l = c.declarationLines l' := by
  have hthis : classText l c.thisClass = classText l' c.thisClass :=
    h.classText_eq (by simp [references])
  have hsuper : c.superLines l = c.superLines l' := by
    unfold superLines
    split
    · rfl
    · rename_i hshown
      have hsuper : c.superClass ≠ 0 := by
        intro hzero
        exact hshown (by simp [hzero])
      rw [h.classText_eq (by simp [references, hsuper])]
  have hinterfaces : c.interfaces.map (classText l) = c.interfaces.map (classText l') := by
    refine List.map_congr_left ?_
    intro index hindex
    exact h.classText_eq (by simp [references, hindex])
  unfold declarationLines
  rw [hthis, hsuper, hinterfaces]

/-- A class file is shown alike by legends that agree on its references and its
constants. -/
theorem renderWith_eq (h : l.Agree l' c.references c.constants) :
    c.renderWith l = c.renderWith l' := by
  have hattributes : l.Agree l' (c.attributes.flatMap Attribute.references)
      (c.attributes.flatMap Attribute.constants) :=
    h.mono (List.subset_append_right _ _) (List.subset_append_right _ _)
  have hfields : l.Agree l' (c.fields.flatMap Member.references)
      (c.fields.flatMap Member.constants) := by
    refine h.mono ?_ (by simp [constants])
    intro r hr
    exact List.mem_append_left _ (List.mem_append_left _ (List.mem_append_right _ hr))
  have hmethods : l.Agree l' (c.methods.flatMap Member.references)
      (c.methods.flatMap Member.constants) := by
    refine h.mono ?_ (by simp [constants])
    intro r hr
    exact List.mem_append_left _ (List.mem_append_right _ hr)
  have hfieldLines : c.fieldLines l = c.fieldLines l' := by
    rw [fieldLines, fieldLines, memberLines_eq hfields fieldLine_eq]
  have hmethodLines : c.methodLines l = c.methodLines l' := by
    rw [methodLines, methodLines, memberLines_eq hmethods methodLine_eq]
  rw [renderWith, renderWith, lines, lines, annotationLines_eq "" hattributes,
    declarationLines_eq h, hfieldLines, hmethodLines]

/-- Where every reference holds, every constant has an entry. -/
theorem exists_entry_of_mem_constants (hholds : ∀ r ∈ c.references, r.Holds c.pool)
    {kind : ConstantKind} {index : UInt16} (hconstant : (kind, index) ∈ c.constants) :
    ∃ entry, c.pool.get index = .ok entry :=
  Reference.holds_anyEntry.mp (hholds _ (anyEntry_mem_references hconstant))

/-- Where every reference holds, a legend has no part in the text of a class file
but by what it puts in the place of constants in entries of another kind. -/
theorem renderWith_eq_render (hpool : l.pool = c.pool)
    (hholds : ∀ r ∈ c.references, r.Holds c.pool)
    (hmissing : ∀ kind index entry, (kind, index) ∈ c.constants → c.pool.get index = .ok entry →
      entry.kind ≠ kind.entryKind → l.missingConstant index = Entry.indexText index) :
    c.renderWith l = c.render := by
  refine renderWith_eq ⟨hpool.symm, hpool ▸ hholds, ?_⟩
  rintro ⟨kind, index⟩ hconstant
  obtain ⟨entry, hget⟩ := exists_entry_of_mem_constants hholds hconstant
  by_cases hkind : entry.kind = kind.entryKind
  · obtain ⟨text, htext⟩ := exists_constantText hget hkind
    rw [htext l hpool, htext (.ofPool c.pool) rfl]
  · have hmisfit := (constantText_eq_missing_iff hget).mpr hkind
    rw [hmisfit l hpool, hmisfit (.ofPool c.pool) rfl]
    exact hmissing kind index entry hconstant hget hkind

end ClassFile

end Lines

end ClassOutline
