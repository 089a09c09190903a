/-
  Proofs/ClassFile/Layout.lean --- class files that differ in how they are laid out.

  What is shown of a class file depends on what its indices stand for and on the
  annotations in its attributes, not on where the entries of its pool lie, on
  entries that nothing refers to, on the payloads of attributes or on attributes
  without annotations.
-/
import ClassOutline.ClassFile.Render
import ClassOutline.Proofs.AnnotationUse.Layout

set_option autoImplicit false

namespace ClassOutline

open ConstantPool

/-! ## Class files of the same form -/

/-- Which parts of two class files correspond: the indices of texts, the indices of
classes, and the annotations. -/
structure Correspondence where
  text : UInt16 → UInt16 → Prop
  className : UInt16 → UInt16 → Prop
  use : AnnotationUse → AnnotationUse → Prop

/-- Whether members have the same flags, and names, descriptors and annotations
that correspond. -/
structure Member.Corresponds {d : Declaration} (R : Correspondence) (member member' : Member d) :
    Prop where
  access : member.access = member'.access
  name : R.text member.nameIndex member'.nameIndex
  descriptor : R.text member.descriptorIndex member'.descriptorIndex
  annotations : List.Forall₂ R.use (Attribute.allAnnotations member.attributes)
    (Attribute.allAnnotations member'.attributes)

/-- Whether class files have the same form, with parts that correspond.  The flag
`super` has no part in it, nor have the entries of the pools but by their
number. -/
structure ClassFile.Corresponds (R : Correspondence) (c c' : ClassFile) : Prop where
  majorVersion : c.majorVersion = c'.majorVersion
  minorVersion : c.minorVersion = c'.minorVersion
  poolCount : c.pool.count = c'.pool.count
  access : ∀ flag ∈ Declaration.type.flags, flag ≠ .super → c.access.has flag = c'.access.has flag
  thisClass : R.className c.thisClass c'.thisClass
  noSuper : c.superClass = 0 ↔ c'.superClass = 0
  superClass : c.superClass ≠ 0 → R.className c.superClass c'.superClass
  interfaces : List.Forall₂ R.className c.interfaces c'.interfaces
  fields : List.Forall₂ (Member.Corresponds R) c.fields c'.fields
  methods : List.Forall₂ (Member.Corresponds R) c.methods c'.methods
  annotations : List.Forall₂ R.use (Attribute.allAnnotations c.attributes)
    (Attribute.allAnnotations c'.attributes)

/-- Whether legends show parts alike that correspond. -/
structure Correspondence.ShownAlike (R : Correspondence) (l l' : Legend) : Prop where
  text : ∀ {index index'}, R.text index index' → utf8Text l index = utf8Text l' index'
  className : ∀ {index index'}, R.className index index' → classText l index = classText l' index'
  use : ∀ {use use'}, R.use use use' → use.text l = use'.text l'

/-! ## Lines -/

section Lists

variable {α β γ : Type} {R : α → β → Prop} {as : List α} {bs : List β}

theorem map_eq_map_of_forall₂ {f : α → γ} {g : β → γ} (h : ∀ a b, R a b → f a = g b)
    (hall : List.Forall₂ R as bs) : as.map f = bs.map g := by
  induction hall with
  | nil => rfl
  | cons hhead _ ih => rw [List.map_cons, List.map_cons, h _ _ hhead, ih]

theorem isEmpty_eq_of_forall₂ (hall : List.Forall₂ R as bs) : as.isEmpty = bs.isEmpty := by
  cases hall <;> rfl

end Lists

section Lines

variable {R : Correspondence} {l l' : Legend} (hshown : R.ShownAlike l l')

include hshown

theorem annotationLines_eq_of_forall₂ {attributes attributes' : List Attribute}
    (indentation : String)
    (h : List.Forall₂ R.use (Attribute.allAnnotations attributes)
      (Attribute.allAnnotations attributes')) :
    annotationLines l indentation attributes = annotationLines l' indentation attributes' := by
  refine map_eq_map_of_forall₂ ?_ h
  intro use use' huse
  rw [hshown.use huse]

theorem fieldLine_eq_of_corresponds {field field' : Member .field} (h : field.Corresponds R field') :
    fieldLine l field = fieldLine l' field' := by
  have hdescriptor : typeText l field.descriptorIndex = typeText l' field'.descriptorIndex := by
    rw [typeText, typeText, hshown.text h.descriptor]
  rw [fieldLine, fieldLine, h.access, hdescriptor, hshown.text h.name]

theorem methodLine_eq_of_corresponds {method method' : Member .method}
    (h : method.Corresponds R method') : methodLine l method = methodLine l' method' := by
  rw [methodLine, methodLine, h.access, hshown.text h.name, hshown.text h.descriptor]

/-- Members are shown alike if their own lines are. -/
theorem memberLines_eq_of_forall₂ {d : Declaration} {line line' : Member d → String}
    (hline : ∀ {member member' : Member d}, member.Corresponds R member' →
      line member = line' member') {members members' : List (Member d)}
    (h : List.Forall₂ (Member.Corresponds R) members members') :
    memberLines l line members = memberLines l' line' members' := by
  rw [memberLines, memberLines, List.flatMap_def, List.flatMap_def]
  refine congrArg List.flatten (map_eq_map_of_forall₂ ?_ h)
  intro member member' hmember
  rw [hline hmember, annotationLines_eq_of_forall₂ hshown "\t" hmember.annotations]

end Lines

namespace ClassFile.Corresponds

variable {R : Correspondence} {c c' : ClassFile} (h : c.Corresponds R c')

include h

/-- No word before the name of a type speaks of `super`. -/
theorem modifiers_eq : c.access.modifiers = c'.access.modifiers := by
  have hpublic := h.access .publicAccess (by decide) (by decide)
  have hfinal := h.access .final (by decide) (by decide)
  have hinterface := h.access .interface (by decide) (by decide)
  have habstract := h.access .abstract (by decide) (by decide)
  have hsynthetic := h.access .synthetic (by decide) (by decide)
  have hannotation := h.access .annotationType (by decide) (by decide)
  have henum := h.access .enum (by decide) (by decide)
  simp only [AccessFlags.modifiers, typeWords, wordsOf, List.filter_cons, List.filter_nil, hpublic,
    hfinal, hinterface, habstract, hsynthetic, hannotation, henum]

theorem commentLines_eq : c.commentLines = c'.commentLines := by
  rw [commentLines, commentLines, h.majorVersion, h.minorVersion, h.poolCount,
    h.fields.length_eq, h.methods.length_eq]

section Shown

variable {l l' : Legend} (hshown : R.ShownAlike l l')

include hshown

theorem superLines_eq : c.superLines l = c'.superLines l' := by
  have hinterface := h.access .interface (by decide) (by decide)
  by_cases hzero : c.superClass = 0
  · simp [superLines, hzero, h.noSuper.mp hzero]
  · have hzero' : c'.superClass ≠ 0 := fun heq => hzero (h.noSuper.mpr heq)
    simp only [superLines, hinterface, hzero, hzero', hshown.className (h.superClass hzero)]

theorem declarationLines_eq : c.declarationLines l = c'.declarationLines l' := by
  have hinterface := h.access .interface (by decide) (by decide)
  have hinterfaces : c.interfaces.map (classText l) = c'.interfaces.map (classText l') :=
    map_eq_map_of_forall₂ (fun _ _ => hshown.className) h.interfaces
  rw [declarationLines, declarationLines, hinterface, h.modifiers_eq,
    hshown.className h.thisClass, h.superLines_eq hshown, hinterfaces]

theorem fieldLines_eq : c.fieldLines l = c'.fieldLines l' := by
  have hlines : memberLines l (fieldLine l) c.fields = memberLines l' (fieldLine l') c'.fields :=
    memberLines_eq_of_forall₂ hshown (fieldLine_eq_of_corresponds hshown) h.fields
  rw [fieldLines, fieldLines, hlines, isEmpty_eq_of_forall₂ h.fields]

theorem methodLines_eq : c.methodLines l = c'.methodLines l' := by
  have hlines :
      memberLines l (methodLine l) c.methods = memberLines l' (methodLine l') c'.methods :=
    memberLines_eq_of_forall₂ hshown (methodLine_eq_of_corresponds hshown) h.methods
  rw [methodLines, methodLines, hlines, isEmpty_eq_of_forall₂ h.fields,
    isEmpty_eq_of_forall₂ h.methods]

/-- Class files of the same form are shown alike by legends that show the parts
of them alike. -/
theorem renderWith_eq : c.renderWith l = c'.renderWith l' := by
  rw [renderWith, renderWith, lines, lines, h.commentLines_eq,
    annotationLines_eq_of_forall₂ hshown "" h.annotations, h.declarationLines_eq hshown,
    h.fieldLines_eq hshown, h.methodLines_eq hshown]

end Shown

end ClassFile.Corresponds

/-! ## Layouts -/

namespace Correspondence

/-- Indices that stand for the same in two pools. -/
def same (pool pool' : ConstantPool) : Correspondence where
  text := SameText pool pool'
  className := SameClass pool pool'
  use := AnnotationUse.Corresponds (SameText pool pool') (SameConstant pool pool')

/-- Indices that were moved to others, and stand for what their place demands. -/
def moved (moves : UInt16 → UInt16 → Prop) (pool : ConstantPool) : Correspondence where
  text := TextMoved moves pool
  className := ClassMoved moves pool
  use := AnnotationUse.Corresponds (TextMoved moves pool) (ConstantMoved moves pool)

/-- Indices and annotations that are equal, whatever they stand for. -/
def equal : Correspondence where
  text := (· = ·)
  className := (· = ·)
  use := (· = ·)

theorem shownAlike_same (pool pool' : ConstantPool) :
    (same pool pool').ShownAlike (.ofPool pool) (.ofPool pool') where
  text := SameText.utf8Text_eq
  className := SameClass.classText_eq
  use huse := huse.text_eq ConstantPool.shownAlike_same

theorem shownAlike_moved {moves : UInt16 → UInt16 → Prop} {pool pool' : ConstantPool}
    (hmoved : pool.MovedTo moves pool') :
    (moved moves pool).ShownAlike (.ofPool pool) (.ofPool pool') where
  text h := (TextMoved.sameText hmoved h).utf8Text_eq
  className h := (ClassMoved.sameClass hmoved h).classText_eq
  use huse := huse.text_eq (ConstantPool.shownAlike_moved hmoved)

theorem shownAlike_equal (legend : Legend) : equal.ShownAlike legend legend where
  text h := congrArg (utf8Text legend) h
  className h := congrArg (classText legend) h
  use h := congrArg (AnnotationUse.text legend) h

end Correspondence

namespace ClassFile

/-- How a class file is laid out does not show.  Its text is the same as that of
each class file of the same form whose indices stand for the same, in particular
when the entries that it refers to were moved to other indices, and, whatever its
indices stand for, when attributes change but not the annotations in them. -/
theorem render_eq_of_corresponds (c c' : ClassFile) :
    (c.Corresponds (.same c.pool c'.pool) c' → c.render = c'.render) ∧
    (∀ moves, c.pool.MovedTo moves c'.pool → c.Corresponds (.moved moves c.pool) c' →
      c.render = c'.render) ∧
    (c.pool = c'.pool → c.Corresponds .equal c' → c.render = c'.render) := by
  refine ⟨?_, ?_, ?_⟩
  · intro h
    exact h.renderWith_eq (Correspondence.shownAlike_same c.pool c'.pool)
  · intro moves hmoved h
    exact h.renderWith_eq (Correspondence.shownAlike_moved hmoved)
  · intro hpool h
    rw [render, render, ← hpool]
    exact h.renderWith_eq (Correspondence.shownAlike_equal _)

/-! ## A class file in two layouts -/

/-- An annotation with a value of every form, over the indices that `place` gives to
the text `A`, the text `LA;` and a number. -/
def placedUse (place : UInt16 → UInt16) : AnnotationUse :=
  ⟨place 3, [⟨place 1, .array [.constant .char (place 4), .classLiteral (place 3),
    .enumConstant (place 3) (place 1), .nested ⟨place 3, []⟩]⟩]⟩

/-- A class file over such indices, with attributes that show nothing. -/
def placedClass (place : UInt16 → UInt16) (pool : ConstantPool) (word : UInt16)
    (others : List Attribute) : ClassFile where
  magic := 0xCAFEBABE
  minorVersion := 0
  majorVersion := 52
  pool := pool
  access := .ofWord .type word
  thisClass := place 2
  superClass := place 2
  interfaces := [place 2]
  fields := [⟨.ofWord .field 1, place 1, place 3, others ++ [⟨7, [], some [placedUse place]⟩]⟩]
  methods := [⟨.ofWord .method 1, place 1, place 5, others⟩]
  attributes := others

/-- A pool of which nothing refers to the last entry. -/
def placedPool : ConstantPool :=
  ⟨#[some (.utf8 "A"), some (.classRef 1), some (.utf8 "LA;"), some (.integer 65),
    some (.utf8 "()V"), some (.integer 9)]⟩

/-- Its entries in another order, and another one in the place of the last. -/
def otherPool : ConstantPool :=
  ⟨#[some (.classRef 5), some (.integer 65), some (.utf8 "LA;"), some (.utf8 "()V"),
    some (.utf8 "A"), some (.float 0)]⟩

/-- Where the entries of the one pool lie in the other. -/
def otherPlace : UInt16 → UInt16
  | 1 => 5
  | 2 => 1
  | 4 => 2
  | 5 => 4
  | index => index

/-- The class file over the one pool. -/
def firstLayout : ClassFile := placedClass id placedPool 0x21 []

/-- The class file over the other pool, without the flag `super` and with an
attribute that shows nothing. -/
def secondLayout : ClassFile := placedClass otherPlace otherPool 1 [⟨0, [1], none⟩]

/-- The class file over the one pool with these changes. -/
def thirdLayout : ClassFile := placedClass id placedPool 1 [⟨0, [1], none⟩]

/-- Wherever the indices are placed, those changes make no difference to the
form. -/
theorem placedClass_corresponds {R : Correspondence} {pool pool' : ConstantPool}
    {place : UInt16 → UInt16} (hcount : pool.count = pool'.count) (hplace : place 2 ≠ 0)
    (hclass : R.className 2 (place 2)) (htext : ∀ index ∈ [1, 3, 5], R.text index (place index))
    (huse : R.use (placedUse id) (placedUse place)) :
    (placedClass id pool 0x21 []).Corresponds R (placedClass place pool' 1 [⟨0, [1], none⟩]) where
  majorVersion := rfl
  minorVersion := rfl
  poolCount := hcount
  access := by
    show ∀ flag ∈ Declaration.type.flags, flag ≠ .super →
      (AccessFlags.ofWord .type 0x21).has flag = (AccessFlags.ofWord .type 1).has flag
    decide
  thisClass := hclass
  noSuper := ⟨fun h => absurd h (show (2 : UInt16) ≠ 0 by decide), fun h => absurd h hplace⟩
  superClass _ := hclass
  interfaces := .cons hclass .nil
  fields := .cons ⟨rfl, htext 1 (by decide), htext 3 (by decide), .cons huse .nil⟩ .nil
  methods := .cons ⟨rfl, htext 1 (by decide), htext 5 (by decide), .nil⟩ .nil
  annotations := .nil

theorem placedUse_corresponds {text : UInt16 → UInt16 → Prop}
    {constant : ConstantKind → UInt16 → UInt16 → Prop} {place : UInt16 → UInt16}
    (htext : ∀ index ∈ [1, 3, 5], text index (place index))
    (hconstant : constant .char 4 (place 4)) :
    (placedUse id).Corresponds text constant (placedUse place) := by
  have hname := htext 1 (by decide)
  have htype := htext 3 (by decide)
  have hvalue : ElementValue.Corresponds text constant
      (.array [.constant .char 4, .classLiteral 3, .enumConstant 3 1, .nested ⟨3, []⟩])
      (.array [.constant .char (place 4), .classLiteral (place 3),
        .enumConstant (place 3) (place 1), .nested ⟨place 3, []⟩]) :=
    .array (.cons (.constant hconstant) (.cons (.classLiteral htype)
      (.cons (.enumConstant htype hname) (.cons (.nested (.mk htype .nil)) .nil))))
  exact .mk htype (.cons (.mk hname hvalue) .nil)

/-- Whether an index was moved from the one pool to the other. -/
def MovedToOther (index index' : UInt16) : Prop :=
  index ∈ [1, 2, 3, 4, 5] ∧ index' = otherPlace index

theorem placedPool_movedTo : placedPool.MovedTo MovedToOther otherPool := by
  rintro index _ ⟨hindex, rfl⟩
  simp only [List.mem_cons, List.not_mem_nil, or_false] at hindex
  rcases hindex with rfl | rfl | rfl | rfl | rfl
  · exact ⟨_, _, rfl, rfl, .utf8⟩
  · exact ⟨_, _, rfl, rfl, .classRef ⟨by decide, rfl⟩⟩
  · exact ⟨_, _, rfl, rfl, .utf8⟩
  · exact ⟨_, _, rfl, rfl, .integer⟩
  · exact ⟨_, _, rfl, rfl, .utf8⟩

theorem placedPool_textMoved :
    ∀ index ∈ [1, 3, 5], TextMoved MovedToOther placedPool index (otherPlace index) := by
  intro index hindex
  simp only [List.mem_cons, List.not_mem_nil, or_false] at hindex
  rcases hindex with rfl | rfl | rfl
  · exact ⟨⟨by decide, rfl⟩, "A", rfl⟩
  · exact ⟨⟨by decide, rfl⟩, "LA;", rfl⟩
  · exact ⟨⟨by decide, rfl⟩, "()V", rfl⟩

theorem placedPool_classMoved : ClassMoved MovedToOther placedPool 2 (otherPlace 2) :=
  ⟨⟨by decide, rfl⟩, "A", rfl⟩

theorem placedPool_constantMoved : ConstantMoved MovedToOther placedPool .char 4 (otherPlace 4) :=
  ⟨⟨by decide, rfl⟩, .integer 65, rfl, rfl⟩

theorem render_firstLayout :
    (firstLayout.Corresponds (.same placedPool otherPool) secondLayout ∧
      firstLayout.render = secondLayout.render) ∧
    (placedPool.MovedTo MovedToOther otherPool ∧
      firstLayout.Corresponds (.moved MovedToOther placedPool) secondLayout ∧
      firstLayout.render = secondLayout.render) ∧
    firstLayout.Corresponds .equal thirdLayout ∧ firstLayout.render = thirdLayout.render := by
  have htext : ∀ index ∈ [1, 3, 5], SameText placedPool otherPool index (otherPlace index) :=
    fun index hindex => (placedPool_textMoved index hindex).sameText placedPool_movedTo
  have hclass := placedPool_classMoved.sameClass placedPool_movedTo
  have hconstant := placedPool_constantMoved.sameConstant placedPool_movedTo
  have hsame : firstLayout.Corresponds (.same placedPool otherPool) secondLayout :=
    placedClass_corresponds rfl (by decide) hclass htext (placedUse_corresponds htext hconstant)
  have hmoved : firstLayout.Corresponds (.moved MovedToOther placedPool) secondLayout :=
    placedClass_corresponds rfl (by decide) placedPool_classMoved placedPool_textMoved
      (placedUse_corresponds placedPool_textMoved placedPool_constantMoved)
  have hequal : firstLayout.Corresponds .equal thirdLayout :=
    placedClass_corresponds rfl (by decide) rfl (fun _ _ => rfl) rfl
  obtain ⟨hrender, hrenderMoved, -⟩ := render_eq_of_corresponds firstLayout secondLayout
  obtain ⟨-, -, hrenderEqual⟩ := render_eq_of_corresponds firstLayout thirdLayout
  exact ⟨⟨hsame, hrender hsame⟩,
    ⟨placedPool_movedTo, hmoved, hrenderMoved _ placedPool_movedTo hmoved⟩,
    hequal, hrenderEqual rfl hequal⟩

end ClassFile

end ClassOutline
