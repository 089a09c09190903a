/-
  Proofs/AnnotationUse/Layout.lean --- annotations that differ in their indices.

  Two annotations correspond if they have the same form and the indices in the
  same places correspond.  If indices that correspond are shown alike, so are
  annotations that do.  Indices are shown alike if they stand for the same text,
  class name or fitting constant, and a pool whose entries were moved keeps what
  an index stands for under the index that it was moved to.
-/
import ClassOutline.Proofs.AnnotationUse.Shown
import Mathlib.Data.List.Forall2

set_option autoImplicit false

namespace ClassOutline

/-! ## Annotations of the same form -/

section Form

variable {text : UInt16 → UInt16 → Prop} {constant : ConstantKind → UInt16 → UInt16 → Prop}

mutual

/-- Whether element values have the same form, with indices of texts and of
constants that correspond. -/
inductive ElementValue.Corresponds (text : UInt16 → UInt16 → Prop)
    (constant : ConstantKind → UInt16 → UInt16 → Prop) : ElementValue → ElementValue → Prop
  | constant {kind : ConstantKind} {index index' : UInt16} (h : constant kind index index') :
    ElementValue.Corresponds text constant (.constant kind index) (.constant kind index')
  | enumConstant {typeName typeName' constantName constantName' : UInt16}
      (htype : text typeName typeName') (hname : text constantName constantName') :
    ElementValue.Corresponds text constant (.enumConstant typeName constantName)
      (.enumConstant typeName' constantName')
  | classLiteral {index index' : UInt16} (h : text index index') :
    ElementValue.Corresponds text constant (.classLiteral index) (.classLiteral index')
  | nested {use use' : AnnotationUse} (h : AnnotationUse.Corresponds text constant use use') :
    ElementValue.Corresponds text constant (.nested use) (.nested use')
  | array {values values' : List ElementValue}
      (h : List.Forall₂ (ElementValue.Corresponds text constant) values values') :
    ElementValue.Corresponds text constant (.array values) (.array values')

/-- Whether annotations have the same form, with indices that correspond. -/
inductive AnnotationUse.Corresponds (text : UInt16 → UInt16 → Prop)
    (constant : ConstantKind → UInt16 → UInt16 → Prop) : AnnotationUse → AnnotationUse → Prop
  | mk {typeIndex typeIndex' : UInt16} {elements elements' : List Element}
      (htype : text typeIndex typeIndex')
      (helements : List.Forall₂ (Element.Corresponds text constant) elements elements') :
    AnnotationUse.Corresponds text constant ⟨typeIndex, elements⟩ ⟨typeIndex', elements'⟩

/-- Whether elements have corresponding names and values. -/
inductive Element.Corresponds (text : UInt16 → UInt16 → Prop)
    (constant : ConstantKind → UInt16 → UInt16 → Prop) : Element → Element → Prop
  | mk {name name' : UInt16} {value value' : ElementValue} (hname : text name name')
      (hvalue : ElementValue.Corresponds text constant value value') :
    Element.Corresponds text constant ⟨name, value⟩ ⟨name', value'⟩

end

/-- Whether legends show texts and constants alike whose indices correspond. -/
structure ShownAlike (text : UInt16 → UInt16 → Prop)
    (constant : ConstantKind → UInt16 → UInt16 → Prop) (l l' : Legend) : Prop where
  text : ∀ {index index'}, text index index' → utf8Text l index = utf8Text l' index'
  constant : ∀ {kind index index'}, constant kind index index' →
    constantText l kind index = constantText l' kind index'

variable {l l' : Legend}

theorem ShownAlike.typeText_eq (h : ShownAlike text constant l l') {index index' : UInt16}
    (hindex : text index index') : typeText l index = typeText l' index' := by
  rw [typeText, typeText, h.text hindex]

mutual

/-- Values of the same form are shown alike. -/
theorem ElementValue.Corresponds.text_eq (hshown : ShownAlike text constant l l') :
    ∀ {v v' : ElementValue}, v.Corresponds text constant v' → v.text l = v'.text l'
  | .constant _ _, _, .constant h => by
    rw [ElementValue.text, ElementValue.text, hshown.constant h]
  | .enumConstant _ _, _, .enumConstant htype hname => by
    rw [ElementValue.text, ElementValue.text, hshown.typeText_eq htype, hshown.text hname]
  | .classLiteral _, _, .classLiteral h => by
    rw [ElementValue.text, ElementValue.text, hshown.text h]
  | .nested _, _, .nested h => by
    rw [ElementValue.text, ElementValue.text, AnnotationUse.Corresponds.text_eq hshown h]
  | .array _, _, .array h => by
    rw [ElementValue.text, ElementValue.text, ElementValue.texts_eq_of_forall₂ hshown [] h]

/-- Annotations of the same form are shown alike. -/
theorem AnnotationUse.Corresponds.text_eq (hshown : ShownAlike text constant l l') :
    ∀ {use use' : AnnotationUse}, use.Corresponds text constant use' → use.text l = use'.text l'
  | ⟨_, _⟩, _, .mk htype helements => by
    rw [AnnotationUse.text, AnnotationUse.text, hshown.typeText_eq htype,
      Element.texts_eq_of_forall₂ hshown [] helements]

theorem Element.texts_eq_of_forall₂ (hshown : ShownAlike text constant l l') :
    ∀ {elements elements' : List Element} (before : List String),
      List.Forall₂ (Element.Corresponds text constant) elements elements' →
      Element.texts l before elements = Element.texts l' before elements'
  | [], _, _, .nil => by rw [Element.texts, Element.texts]
  | ⟨_, _⟩ :: _, _ :: _, before, .cons (.mk hname hvalue) hrest => by
    rw [Element.texts, Element.texts, hshown.text hname,
      ElementValue.Corresponds.text_eq hshown hvalue, Element.texts_eq_of_forall₂ hshown _ hrest]

theorem ElementValue.texts_eq_of_forall₂ (hshown : ShownAlike text constant l l') :
    ∀ {values values' : List ElementValue} (before : List String),
      List.Forall₂ (ElementValue.Corresponds text constant) values values' →
      ElementValue.texts l before values = ElementValue.texts l' before values'
  | [], _, _, .nil => by rw [ElementValue.texts, ElementValue.texts]
  | _ :: _, _ :: _, before, .cons hvalue hrest => by
    rw [ElementValue.texts, ElementValue.texts, ElementValue.Corresponds.text_eq hshown hvalue,
      ElementValue.texts_eq_of_forall₂ hshown _ hrest]

end

end Form

/-! ## Indices that stand for the same -/

section Names

variable {legend : Legend} {index : UInt16}

theorem utf8Text_of_utf8 {text : String} (h : legend.pool.utf8 index = .ok text) :
    utf8Text legend index = text := by
  rw [utf8Text, h]
  rfl

theorem classText_of_className {name : String} (h : legend.pool.className index = .ok name) :
    classText legend index = name := by
  rw [classText, h]
  rfl

theorem constantText?_of_get {kind : ConstantKind} {entry : Entry}
    (hget : legend.pool.get index = .ok entry) (hkind : entry.kind = kind.entryKind) :
    constantText? kind entry = some (constantText legend kind index) := by
  have hsome : constantText? kind entry ≠ none := by
    intro hnone
    exact constantText?_eq_none_iff.mp hnone hkind
  obtain ⟨text, htext⟩ := Option.ne_none_iff_exists'.mp hsome
  simp only [constantText, hget, htext, Option.getD_some]

end Names

namespace ConstantPool

variable {pool pool' : ConstantPool} {index index' : UInt16}

/-- Whether indices of two pools stand for the same text. -/
def SameText (pool pool' : ConstantPool) (index index' : UInt16) : Prop :=
  ∃ text, pool.utf8 index = .ok text ∧ pool'.utf8 index' = .ok text

/-- Whether indices of two pools stand for classes of the same name. -/
def SameClass (pool pool' : ConstantPool) (index index' : UInt16) : Prop :=
  ∃ name, pool.className index = .ok name ∧ pool'.className index' = .ok name

/-- Whether indices of two pools stand for the same entry, of the kind that
constants of a kind are kept in. -/
def SameConstant (pool pool' : ConstantPool) (kind : ConstantKind) (index index' : UInt16) :
    Prop :=
  ∃ entry, pool.get index = .ok entry ∧ pool'.get index' = .ok entry ∧
    entry.kind = kind.entryKind

theorem SameText.utf8Text_eq (h : SameText pool pool' index index') :
    utf8Text (.ofPool pool) index = utf8Text (.ofPool pool') index' := by
  obtain ⟨text, htext, htext'⟩ := h
  have hshown : utf8Text (.ofPool pool) index = text := utf8Text_of_utf8 htext
  have hshown' : utf8Text (.ofPool pool') index' = text := utf8Text_of_utf8 htext'
  rw [hshown, hshown']

theorem SameClass.classText_eq (h : SameClass pool pool' index index') :
    classText (.ofPool pool) index = classText (.ofPool pool') index' := by
  obtain ⟨name, hname, hname'⟩ := h
  have hshown : classText (.ofPool pool) index = name := classText_of_className hname
  have hshown' : classText (.ofPool pool') index' = name := classText_of_className hname'
  rw [hshown, hshown']

/-- The text of a constant is that of its entry, so its index does not show. -/
theorem SameConstant.constantText_eq {kind : ConstantKind}
    (h : SameConstant pool pool' kind index index') :
    constantText (.ofPool pool) kind index = constantText (.ofPool pool') kind index' := by
  obtain ⟨entry, hget, hget', hkind⟩ := h
  have htext : constantText? kind entry = some (constantText (.ofPool pool) kind index) :=
    constantText?_of_get hget hkind
  have htext' : constantText? kind entry = some (constantText (.ofPool pool') kind index') :=
    constantText?_of_get hget' hkind
  exact Option.some.inj (htext.symm.trans htext')

theorem shownAlike_same :
    ShownAlike (SameText pool pool') (SameConstant pool pool') (.ofPool pool) (.ofPool pool') where
  text := SameText.utf8Text_eq
  constant := SameConstant.constantText_eq

end ConstantPool

/-! ## Pools whose entries were moved -/

/-- Whether an entry becomes another one when every index is replaced by one that
it was moved to. -/
inductive Entry.MovedTo (moves : UInt16 → UInt16 → Prop) : Entry → Entry → Prop
  | utf8 {text : String} : Entry.MovedTo moves (.utf8 text) (.utf8 text)
  | integer {value : Int32} : Entry.MovedTo moves (.integer value) (.integer value)
  | float {bits : UInt32} : Entry.MovedTo moves (.float bits) (.float bits)
  | long {value : Int64} : Entry.MovedTo moves (.long value) (.long value)
  | double {bits : UInt64} : Entry.MovedTo moves (.double bits) (.double bits)
  | classRef {name name' : UInt16} (h : moves name name') :
    Entry.MovedTo moves (.classRef name) (.classRef name')
  | string {text text' : UInt16} (h : moves text text') :
    Entry.MovedTo moves (.string text) (.string text')
  | fieldRef {owner owner' member member' : UInt16} (howner : moves owner owner')
      (hmember : moves member member') :
    Entry.MovedTo moves (.fieldRef owner member) (.fieldRef owner' member')
  | methodRef {owner owner' member member' : UInt16} (howner : moves owner owner')
      (hmember : moves member member') :
    Entry.MovedTo moves (.methodRef owner member) (.methodRef owner' member')
  | interfaceMethodRef {owner owner' member member' : UInt16} (howner : moves owner owner')
      (hmember : moves member member') :
    Entry.MovedTo moves (.interfaceMethodRef owner member) (.interfaceMethodRef owner' member')
  | nameAndType {name name' descriptor descriptor' : UInt16} (hname : moves name name')
      (hdescriptor : moves descriptor descriptor') :
    Entry.MovedTo moves (.nameAndType name descriptor) (.nameAndType name' descriptor')
  | methodHandle {referenceKind : UInt8} {reference reference' : UInt16}
      (h : moves reference reference') :
    Entry.MovedTo moves (.methodHandle referenceKind reference)
      (.methodHandle referenceKind reference')
  | methodType {descriptor descriptor' : UInt16} (h : moves descriptor descriptor') :
    Entry.MovedTo moves (.methodType descriptor) (.methodType descriptor')
  | invokeDynamic {bootstrapMethod member member' : UInt16} (h : moves member member') :
    Entry.MovedTo moves (.invokeDynamic bootstrapMethod member)
      (.invokeDynamic bootstrapMethod member')

namespace ConstantPool

variable {pool pool' : ConstantPool} {moves : UInt16 → UInt16 → Prop} {index index' : UInt16}

/-- Whether every index that was moved stands for the same entry as before, up to
the indices in it.  Of what no index was moved to nothing is said. -/
def MovedTo (moves : UInt16 → UInt16 → Prop) (pool pool' : ConstantPool) : Prop :=
  ∀ index index', moves index index' → ∃ entry entry', pool.get index = .ok entry ∧
    pool'.get index' = .ok entry' ∧ entry.MovedTo moves entry'

/-- Whether an index of a text was moved to another one. -/
def TextMoved (moves : UInt16 → UInt16 → Prop) (pool : ConstantPool) (index index' : UInt16) :
    Prop :=
  moves index index' ∧ ∃ text, pool.utf8 index = .ok text

/-- Whether an index of a class was moved to another one. -/
def ClassMoved (moves : UInt16 → UInt16 → Prop) (pool : ConstantPool) (index index' : UInt16) :
    Prop :=
  moves index index' ∧ ∃ name, pool.className index = .ok name

/-- Whether an index of a constant that is kept as its kind demands was moved to
another one. -/
def ConstantMoved (moves : UInt16 → UInt16 → Prop) (pool : ConstantPool) (kind : ConstantKind)
    (index index' : UInt16) : Prop :=
  moves index index' ∧ ∃ entry, pool.get index = .ok entry ∧ entry.kind = kind.entryKind

theorem get_of_utf8 {text : String} (h : pool.utf8 index = .ok text) :
    pool.get index = .ok (.utf8 text) := by
  unfold utf8 at h
  split at h <;> cases h
  assumption

theorem utf8_of_get {text : String} (h : pool.get index = .ok (.utf8 text)) :
    pool.utf8 index = .ok text := by
  rw [utf8, h]

theorem get_of_className {name : String} (h : pool.className index = .ok name) :
    ∃ nameIndex, pool.get index = .ok (.classRef nameIndex) ∧ pool.utf8 nameIndex = .ok name := by
  unfold className at h
  split at h
  · exact ⟨_, by assumption, h⟩
  · cases h
  · cases h

section Moved

variable (hmoved : pool.MovedTo moves pool')

include hmoved

theorem TextMoved.sameText (h : TextMoved moves pool index index') :
    SameText pool pool' index index' := by
  obtain ⟨hmoves, text, htext⟩ := h
  obtain ⟨entry, entry', hget, hget', hentry⟩ := hmoved index index' hmoves
  obtain rfl := Except.ok.inj (hget.symm.trans (get_of_utf8 htext))
  cases hentry
  exact ⟨text, htext, utf8_of_get hget'⟩

theorem ClassMoved.sameClass (h : ClassMoved moves pool index index') :
    SameClass pool pool' index index' := by
  obtain ⟨hmoves, name, hname⟩ := h
  obtain ⟨entry, entry', hget, hget', hentry⟩ := hmoved index index' hmoves
  obtain ⟨nameIndex, hclass, htext⟩ := get_of_className hname
  obtain rfl := Except.ok.inj (hget.symm.trans hclass)
  -- The name of the class was moved along with it.
  cases hentry with
  | classRef hnameIndex =>
    obtain ⟨text, htext₁, htext₂⟩ := TextMoved.sameText hmoved ⟨hnameIndex, name, htext⟩
    obtain rfl := Except.ok.inj (htext.symm.trans htext₁)
    refine ⟨name, hname, ?_⟩
    rw [className, hget']
    exact htext₂

/-- Entries that constants are kept in hold no index, so they are the same where
they were moved to. -/
theorem ConstantMoved.sameConstant {kind : ConstantKind}
    (h : ConstantMoved moves pool kind index index') :
    SameConstant pool pool' kind index index' := by
  obtain ⟨hmoves, entry, hentry, hkind⟩ := h
  obtain ⟨entry₁, entry', hget, hget', hmovedTo⟩ := hmoved index index' hmoves
  obtain rfl := Except.ok.inj (hget.symm.trans hentry)
  have hsame : entry' = entry₁ := by
    cases hmovedTo <;> first | rfl | cases kind <;> cases hkind
  rw [hsame] at hget'
  exact ⟨entry₁, hget, hget', hkind⟩

theorem shownAlike_moved :
    ShownAlike (TextMoved moves pool) (ConstantMoved moves pool) (.ofPool pool)
      (.ofPool pool') where
  text h := (TextMoved.sameText hmoved h).utf8Text_eq
  constant h := (ConstantMoved.sameConstant hmoved h).constantText_eq

end Moved

end ConstantPool

end ClassOutline
