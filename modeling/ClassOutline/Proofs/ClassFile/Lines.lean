/-
  Proofs/ClassFile/Lines.lean --- the lines of a class file as source text.

  The text is written line by line, and a line is made of words, numbers, names, types,
  annotations and marks.  Where no name and no type has a newline, the lines that were
  written are the lines of the text, so its structure can be read off the class file.
-/
import Mathlib.Data.List.Forall2
import ClassOutline.ClassFile.Render
import ClassOutline.Proofs.AnnotationUse.OneLine

set_option autoImplicit false

namespace ClassOutline

open Text

/-! ## Modifiers -/

section Modifiers

variable {d : Declaration}

theorem oneLine_wordsOf (access : AccessFlags d) {table : List (Flag × String)}
    (h : ∀ row ∈ table, OneLine row.2) : ∀ word ∈ wordsOf access table, OneLine word := by
  intro word hword
  obtain ⟨row, hrow, rfl⟩ := List.mem_map.mp hword
  exact h row (List.mem_filter.mp hrow).1

theorem oneLine_visibility (access : AccessFlags d) : OneLine (visibility access) := by
  unfold visibility
  split
  · decide
  split
  · decide
  split
  · decide
  · decide

theorem oneLine_typeWords (access : AccessFlags .type) :
    ∀ word ∈ typeWords access, OneLine word := by
  rw [typeWords, List.forall_mem_append, List.forall_mem_cons]
  refine ⟨⟨?_, oneLine_wordsOf access (by decide)⟩, ?_⟩
  · split <;> decide
  · split
    · split <;> decide
    · rw [List.forall_mem_append]
      refine ⟨?_, by split <;> decide⟩
      split
      · decide
      · exact oneLine_wordsOf access (by decide)

theorem oneLine_fieldWords (access : AccessFlags .field) :
    ∀ word ∈ fieldWords access, OneLine word := by
  rw [fieldWords, List.forall_mem_append, List.forall_mem_append, List.forall_mem_cons]
  refine ⟨⟨⟨oneLine_visibility access, oneLine_wordsOf access (by decide)⟩, ?_⟩,
    oneLine_wordsOf access (by decide)⟩
  split
  · decide
  · exact oneLine_wordsOf access (by decide)

theorem oneLine_methodWords (access : AccessFlags .method) :
    ∀ word ∈ methodWords access, OneLine word := by
  rw [methodWords, List.forall_mem_append, List.forall_mem_cons]
  refine ⟨⟨oneLine_visibility access, ?_⟩, oneLine_wordsOf access (by decide)⟩
  split
  · decide
  · exact oneLine_wordsOf access (by decide)

theorem oneLine_modifiers (access : AccessFlags d) : OneLine access.modifiers := by
  cases d with
  | type => exact oneLine_intercalate (by decide) (oneLine_typeWords access)
  | field => exact oneLine_intercalate (by decide) (oneLine_fieldWords access)
  | method => exact oneLine_intercalate (by decide) (oneLine_methodWords access)

end Modifiers

/-! ## Marks -/

theorem toList_suffix_append (s t : String) : t.toList <:+ (s ++ t).toList := by
  rw [String.toList_append]
  exact List.suffix_append _ _

theorem markOthers_cons_cons (mark line next : String) (rest : List String) :
    markOthers mark (line :: next :: rest) =
      (line ++ mark) :: markOthers mark (next :: rest) := by
  simp [markOthers]

/-- What relates items to lines, and to lines with a mark behind them, relates the items to
the lines with a mark behind each but the last. -/
theorem forall₂_markOthers {α : Type} {R : α → String → Prop} {mark : String}
    (hmark : ∀ {a line}, R a line → R a (line ++ mark)) {items : List α} {lines : List String}
    (h : List.Forall₂ R items lines) : List.Forall₂ R items (markOthers mark lines) := by
  induction h with
  | nil => exact .nil
  | @cons a line items lines hline hrest ih =>
    cases lines with
    | nil =>
      cases hrest
      exact .cons hline .nil
    | cons next rest =>
      rw [markOthers_cons_cons]
      exact .cons (hmark hline) ih

/-- A mark at the end of the last line. -/
theorem exists_markLast (mark : String) {lines : List String} (hne : lines ≠ []) :
    ∃ front last, lines = front ++ [last] ∧ markLast mark lines = front ++ [last ++ mark] := by
  obtain ⟨front, last, rfl⟩ := (List.eq_nil_or_concat lines).resolve_left hne
  exact ⟨front, last, by simp, by simp [markLast]⟩

/-- Each name in a column has a line of its own that shows it. -/
theorem forall₂_nameLines (keyword : String) (names : List String) :
    List.Forall₂ (fun name line => name.toList <:+: line.toList) names
      (ClassFile.nameLines keyword names) := by
  have hshown : ∀ front name : String, name.toList <:+: (front ++ name).toList :=
    fun front name => (toList_suffix_append front name).isInfix
  cases names with
  | nil => exact .nil
  | cons name rest =>
    refine forall₂_markOthers ?_ (.cons (hshown _ name) ?_)
    · intro name line h
      rw [String.toList_append]
      exact h.trans (List.prefix_append _ _).isInfix
    · rw [List.forall₂_map_right_iff, List.forall₂_same]
      intro name _
      exact hshown _ name

/-! ## Names that are shown -/

/-- The texts that the annotations of attributes show for names and types. -/
def Attribute.shownNames (legend : Legend) (attributes : List Attribute) : List String :=
  (allAnnotations attributes).flatMap (AnnotationUse.shownNames legend)

/-- The texts that a field shows for its name and its type. -/
def fieldNames (legend : Legend) (field : Member .field) : List String :=
  [typeText legend field.descriptorIndex, utf8Text legend field.nameIndex]

/-- The texts that are shown for a method of a given name and descriptor: the name and the
types, or the descriptor if it spells no method type. -/
def signatureNames (name descriptor : String) : List String :=
  match MethodType.parse descriptor with
  | none => [name, descriptor]
  | some type =>
    name :: (if name.toList.head? = some '<' then [] else [returnTypeText type.returnType]) ++
      type.parameters.map FieldType.text

/-- The texts that a method shows for its name and its types. -/
def methodNames (legend : Legend) (method : Member .method) : List String :=
  signatureNames (utf8Text legend method.nameIndex) (utf8Text legend method.descriptorIndex)

/-- The texts that a member shows for names and types, those of its annotations first. -/
def Member.shownNames {d : Declaration} (legend : Legend) (own : Member d → List String)
    (member : Member d) : List String :=
  Attribute.shownNames legend member.attributes ++ own member

/-- The texts that a class file shows for names and types. -/
def ClassFile.shownNames (legend : Legend) (c : ClassFile) : List String :=
  Attribute.shownNames legend c.attributes ++
    (classText legend c.thisClass ::
      (if c.access.has .interface || c.superClass = 0 then []
        else [classText legend c.superClass])) ++
    c.interfaces.map (classText legend) ++
    c.fields.flatMap (Member.shownNames legend (fieldNames legend)) ++
    c.methods.flatMap (Member.shownNames legend (methodNames legend))

/-! ## Lines that stay lines -/

section Lines

variable {legend : Legend}

theorem oneLine_markOthers {mark : String} {lines : List String} (hmark : OneLine mark)
    (h : ∀ line ∈ lines, OneLine line) : ∀ line ∈ markOthers mark lines, OneLine line := by
  intro line hline
  rcases List.mem_append.mp hline with hothers | hlast
  · obtain ⟨other, hother, rfl⟩ := List.mem_map.mp hothers
    exact (h other (List.dropLast_subset _ hother)).append hmark
  · exact h line (List.mem_of_getLast? (Option.mem_toList.mp hlast))

theorem oneLine_markLast {mark : String} {lines : List String} (hmark : OneLine mark)
    (h : ∀ line ∈ lines, OneLine line) : ∀ line ∈ markLast mark lines, OneLine line := by
  intro line hline
  rcases List.mem_append.mp hline with hothers | hlast
  · exact h line (List.dropLast_subset _ hothers)
  · obtain ⟨last, hmem, rfl⟩ := Option.map_eq_some_iff.mp (Option.mem_toList.mp hlast)
    exact (h last (List.mem_of_getLast? hmem)).append hmark

theorem oneLine_nameLines {keyword : String} (hkeyword : OneLine keyword) {names : List String}
    (h : ∀ name ∈ names, OneLine name) :
    ∀ line ∈ ClassFile.nameLines keyword names, OneLine line := by
  cases names with
  | nil => simp [ClassFile.nameLines]
  | cons name rest =>
    have hcolumn : OneLine (String.ofList (List.replicate keyword.length ' ')) := by
      rw [oneLine_ofList_iff, List.mem_replicate]
      exact fun hmem => absurd hmem.2 (by decide)
    have hindented : ∀ {front t : String}, OneLine front → OneLine t →
        OneLine ("\t\t" ++ front ++ t) :=
      fun hfront ht => (OneLine.append (by decide) hfront).append ht
    rw [List.forall_mem_cons] at h
    refine oneLine_markOthers (by decide) (List.forall_mem_cons.mpr ⟨hindented hkeyword h.1, ?_⟩)
    rw [List.forall_mem_map]
    exact fun t ht => hindented hcolumn (h.2 t ht)

theorem oneLine_annotationLines (hmissing : ∀ index, OneLine (legend.missingConstant index))
    {indentation : String} (hindentation : OneLine indentation) {attributes : List Attribute}
    (h : ∀ t ∈ Attribute.shownNames legend attributes, OneLine t) :
    ∀ line ∈ annotationLines legend indentation attributes, OneLine line := by
  intro line hline
  obtain ⟨use, huse, rfl⟩ := List.mem_map.mp hline
  refine hindentation.append (AnnotationUse.oneLine_text hmissing ?_)
  exact fun t ht => h t (List.mem_flatMap.mpr ⟨use, huse, ht⟩)

theorem oneLine_fieldLine {field : Member .field} (h : ∀ t ∈ fieldNames legend field, OneLine t) :
    OneLine (fieldLine legend field) := by
  rw [fieldNames, List.forall_mem_cons, List.forall_mem_singleton] at h
  have hmodifiers : OneLine ("\t" ++ field.access.modifiers) :=
    OneLine.append (by decide) (oneLine_modifiers field.access)
  have htype : OneLine ("\t" ++ field.access.modifiers ++ " " ++
      typeText legend field.descriptorIndex) := (hmodifiers.append (by decide)).append h.1
  exact ((htype.append (by decide)).append h.2).append (by decide)

theorem oneLine_signature {name descriptor : String}
    (h : ∀ t ∈ signatureNames name descriptor, OneLine t) : OneLine (signature name descriptor) := by
  unfold signatureNames at h
  unfold signature
  cases hparse : MethodType.parse descriptor with
  | none =>
    simp only [hparse, List.forall_mem_cons] at h ⊢
    exact ((h.1.append (by decide)).append h.2.1).append (by decide)
  | some type =>
    simp only [hparse, List.forall_mem_append, List.forall_mem_cons] at h ⊢
    obtain ⟨⟨hname, hreturn⟩, hparameters⟩ := h
    have hcolumn : OneLine (", ".intercalate (type.parameters.map FieldType.text)) :=
      oneLine_intercalate (by decide) hparameters
    have hfront : OneLine (if name.toList.head? = some '<' then ""
        else returnTypeText type.returnType ++ " ") := by
      split
      · decide
      · rename_i hshown
        rw [if_neg hshown, List.forall_mem_singleton] at hreturn
        exact hreturn.append (by decide)
    exact (((hfront.append hname).append (by decide)).append hcolumn).append (by decide)

theorem oneLine_methodLine {method : Member .method}
    (h : ∀ t ∈ methodNames legend method, OneLine t) : OneLine (methodLine legend method) := by
  have hmodifiers : OneLine ("\t" ++ method.access.modifiers) :=
    OneLine.append (by decide) (oneLine_modifiers method.access)
  exact (hmodifiers.append (by decide)).append (oneLine_signature h)

theorem oneLine_memberLines (hmissing : ∀ index, OneLine (legend.missingConstant index))
    {d : Declaration} {own : Member d → List String} {line : Member d → String}
    (hline : ∀ member, (∀ t ∈ own member, OneLine t) → OneLine (line member))
    {members : List (Member d)}
    (h : ∀ t ∈ members.flatMap (Member.shownNames legend own), OneLine t) :
    ∀ l ∈ memberLines legend line members, OneLine l := by
  intro l hl
  obtain ⟨member, hmember, hl⟩ := List.mem_flatMap.mp hl
  have hmember : ∀ t ∈ Member.shownNames legend own member, OneLine t :=
    fun t ht => h t (List.mem_flatMap.mpr ⟨member, hmember, ht⟩)
  rw [Member.shownNames, List.forall_mem_append] at hmember
  rcases List.mem_append.mp hl with hannotation | hown
  · exact oneLine_annotationLines hmissing (by decide) hmember.1 l hannotation
  · rw [List.mem_singleton.mp hown]
    exact hline member hmember.2

namespace ClassFile

variable {c : ClassFile}

theorem oneLine_commentLines (c : ClassFile) : ∀ line ∈ c.commentLines, OneLine line := by
  have hcomment : ∀ {front : String} (n : Nat), OneLine front → OneLine (front ++ toString n) :=
    fun n hfront => hfront.append (oneLine_natText n)
  have hversion : OneLine s!"// version: {c.majorVersion}.{c.minorVersion}" :=
    hcomment c.minorVersion.toNat (.append (hcomment c.majorVersion.toNat (by decide)) (by decide))
  rw [commentLines]
  simp only [List.forall_mem_cons]
  exact ⟨hversion, hcomment _ (by decide), hcomment _ (by decide), hcomment _ (by decide),
    by simp⟩

theorem oneLine_declarationLines (h : ∀ t ∈ c.shownNames legend, OneLine t) :
    ∀ line ∈ c.declarationLines legend, OneLine line := by
  simp only [shownNames, List.forall_mem_append, List.forall_mem_cons] at h
  obtain ⟨⟨⟨⟨-, hname, hsuper⟩, hinterfaces⟩, -⟩, -⟩ := h
  have hkeyword : OneLine (if c.access.has .interface then "extends " else "implements ") := by
    split <;> decide
  refine oneLine_markLast (by decide) ?_
  rw [List.forall_mem_append, List.forall_mem_cons]
  refine ⟨⟨?_, ?_⟩, oneLine_nameLines hkeyword hinterfaces⟩
  · exact ((oneLine_modifiers c.access).append (by decide)).append hname
  · unfold superLines
    split
    · simp
    · rename_i hshown
      rw [if_neg hshown, List.forall_mem_singleton] at hsuper
      rw [List.forall_mem_singleton]
      exact OneLine.append (by decide) hsuper

/-- Where no name and no type that is shown has a newline, no line has one. -/
theorem oneLine_lines (hmissing : ∀ index, OneLine (legend.missingConstant index))
    (h : ∀ t ∈ c.shownNames legend, OneLine t) : ∀ line ∈ c.lines legend, OneLine line := by
  have hdeclaration := oneLine_declarationLines h
  rw [shownNames, List.forall_mem_append, List.forall_mem_append, List.forall_mem_append,
    List.forall_mem_append] at h
  obtain ⟨⟨⟨⟨hannotations, -⟩, -⟩, hfields⟩, hmethods⟩ := h
  have hfieldLines : ∀ line ∈ c.fieldLines legend, OneLine line := by
    unfold fieldLines
    split
    · simp
    · rw [List.forall_mem_cons]
      exact ⟨by decide, oneLine_memberLines hmissing (fun _ => oneLine_fieldLine) hfields⟩
  have hmethodLines : ∀ line ∈ c.methodLines legend, OneLine line := by
    unfold methodLines
    split
    · simp
    · rw [List.forall_mem_append, List.forall_mem_cons]
      refine ⟨by split <;> decide, by decide, ?_⟩
      exact oneLine_memberLines hmissing (fun _ => oneLine_methodLine) hmethods
  simp only [lines, List.forall_mem_append]
  refine ⟨⟨⟨⟨⟨oneLine_commentLines c, ?_⟩, hdeclaration⟩, hfieldLines⟩, hmethodLines⟩, by decide⟩
  exact oneLine_annotationLines hmissing (by decide) hannotations

end ClassFile

end Lines

/-! ## Line structure -/

/-- Whether lines are those of a member: one for each annotation of its attributes, in
order, and behind them one that ends in a given way. -/
def MemberBlock (legend : Legend) (attributes : List Attribute) (ending : String)
    (block : List String) : Prop :=
  ∃ declaration,
    block = (attributes.flatMap fun a => a.annotations.getD []).map
        (fun use => "\t" ++ use.text legend) ++ [declaration] ∧
      ending.toList <:+ declaration.toList

theorem memberBlock_field (legend : Legend) (field : Member .field) :
    MemberBlock legend field.attributes (utf8Text legend field.nameIndex ++ ";")
      (annotationLines legend "\t" field.attributes ++ [fieldLine legend field]) := by
  refine ⟨fieldLine legend field, rfl, ?_⟩
  rw [fieldLine, String.append_assoc]
  exact toList_suffix_append _ _

theorem semicolon_suffix_signature (name descriptor : String) :
    ";".toList <:+ (signature name descriptor).toList := by
  have hclose : ";".toList <:+ ");".toList := by decide
  unfold signature
  split
  · exact toList_suffix_append _ ";"
  · exact hclose.trans (toList_suffix_append _ ");")

theorem memberBlock_method (legend : Legend) (method : Member .method) :
    MemberBlock legend method.attributes ";"
      (annotationLines legend "\t" method.attributes ++ [methodLine legend method]) := by
  refine ⟨methodLine legend method, rfl, ?_⟩
  exact (semicolon_suffix_signature _ _).trans (toList_suffix_append _ _)

namespace ClassFile

/-- Whether lines declare the class: a line for its own name, one for its superclass if it
has one and is no interface, and one for each interface, the last of them with a brace
behind it. -/
def DeclaredBy (legend : Legend) (c : ClassFile) (head : List String) : Prop :=
  ∃ interfaceLines front last,
    (c.access.modifiers ++ " " ++ classText legend c.thisClass) ::
        (if c.superClass ≠ 0 ∧ c.access.has .interface = false then
          ["\t\textends " ++ classText legend c.superClass] else []) ++ interfaceLines =
      front ++ [last] ∧
    head = front ++ [last ++ " \x7b"] ∧
    List.Forall₂ (fun index line => (classText legend index).toList <:+: line.toList)
      c.interfaces interfaceLines

theorem declaredBy_declarationLines (legend : Legend) (c : ClassFile) :
    c.DeclaredBy legend (c.declarationLines legend) := by
  have hsuper : c.superLines legend =
      if c.superClass ≠ 0 ∧ c.access.has .interface = false then
        ["\t\textends " ++ classText legend c.superClass] else [] := by
    rw [superLines]
    by_cases hzero : c.superClass = 0 <;> cases c.access.has .interface <;> simp [hzero]
  obtain ⟨interfaceLines, hhead, hinterfaces⟩ : ∃ interfaceLines,
      c.declarationLines legend = markLast " \x7b"
        ((c.access.modifiers ++ " " ++ classText legend c.thisClass) :: c.superLines legend ++
          interfaceLines) ∧
      List.Forall₂ (fun name line => name.toList <:+: line.toList)
        (c.interfaces.map (classText legend)) interfaceLines :=
    ⟨_, rfl, forall₂_nameLines _ _⟩
  have hne : (c.access.modifiers ++ " " ++ classText legend c.thisClass) :: c.superLines legend ++
      interfaceLines ≠ [] := List.cons_ne_nil _ _
  obtain ⟨front, last, hlines, hmarked⟩ := exists_markLast " \x7b" hne
  rw [hhead, hmarked]
  rw [hsuper] at hlines
  exact ⟨interfaceLines, front, last, hlines, rfl, List.forall₂_map_left_iff.mp hinterfaces⟩

/-- The lines of a class file as source text: four comments, a line for each annotation of
the class, the declaration, the fields behind a heading if there are any, the methods
behind a heading if there are any, with a blank line before it if there are fields too, and
a closing brace.  Each annotation takes one line. -/
theorem lines_render {c : ClassFile}
    (h : ∀ t ∈ c.shownNames (.ofPool c.pool), OneLine t) :
    ∃ (head : List String) (fieldBlocks methodBlocks : List (List String)),
      Text.lines c.render =
        [s!"// version: {c.majorVersion}.{c.minorVersion}",
          s!"// constant pool count: {c.pool.count}", s!"// field count: {c.fields.length}",
          s!"// method count: {c.methods.length}"] ++
        (c.attributes.flatMap fun a => a.annotations.getD []).map
          (AnnotationUse.text (.ofPool c.pool)) ++
        head ++
        (if c.fields.isEmpty then []
          else "\t//---------- Fields ----------" :: fieldBlocks.flatten) ++
        (if c.methods.isEmpty then []
          else (if c.fields.isEmpty then [] else [""]) ++
            "\t//---------- Methods ----------" :: methodBlocks.flatten) ++
        ["\x7d"] ∧
      c.DeclaredBy (.ofPool c.pool) head ∧
      List.Forall₂ (fun field => MemberBlock (.ofPool c.pool) field.attributes
        (utf8Text (.ofPool c.pool) field.nameIndex ++ ";")) c.fields fieldBlocks ∧
      List.Forall₂ (fun method => MemberBlock (.ofPool c.pool) method.attributes ";")
        c.methods methodBlocks := by
  have hlines : Text.lines c.render = c.lines (.ofPool c.pool) :=
    lines_intercalate (oneLine_lines Entry.oneLine_indexText h) (by simp [lines])
  have hannotations : annotationLines (.ofPool c.pool) "" c.attributes =
      (c.attributes.flatMap fun a => a.annotations.getD []).map
        (AnnotationUse.text (.ofPool c.pool)) :=
    List.map_congr_left fun use _ => String.empty_append
  refine ⟨c.declarationLines (.ofPool c.pool),
    c.fields.map fun field =>
      annotationLines (.ofPool c.pool) "\t" field.attributes ++ [fieldLine (.ofPool c.pool) field],
    c.methods.map fun method =>
      annotationLines (.ofPool c.pool) "\t" method.attributes ++
        [methodLine (.ofPool c.pool) method],
    ?_, declaredBy_declarationLines _ c, ?_, ?_⟩
  · rw [hlines, lines, hannotations]
    rfl
  · rw [List.forall₂_map_right_iff, List.forall₂_same]
    exact fun field _ => memberBlock_field _ field
  · rw [List.forall₂_map_right_iff, List.forall₂_same]
    exact fun method _ => memberBlock_method _ method

/-- A class whose field has an annotation with a text of two lines. -/
def annotatedClass : ClassFile where
  magic := 0xCAFEBABE
  minorVersion := 0
  majorVersion := 52
  pool := ⟨#[some (.utf8 "A"), some (.classRef 1), some (.utf8 "LA;"), some (.utf8 "x\ny"),
    some (.utf8 "(I)V")]⟩
  access := .ofWord .type 1
  thisClass := 2
  superClass := 2
  interfaces := [2]
  fields := [⟨.ofWord .field 1, 1, 3, [⟨3, [], some [⟨3, [⟨1, .constant .string 4⟩]⟩]⟩]⟩]
  methods := [⟨.ofWord .method 1, 1, 5, []⟩]
  attributes := []

/-- The text of two lines takes one line of its field's block. -/
theorem lines_render_annotatedClass :
    (∀ t ∈ annotatedClass.shownNames (.ofPool annotatedClass.pool), OneLine t) ∧
      ∃ head declaration methodBlock,
        Text.lines annotatedClass.render =
          ["// version: 52.0", "// constant pool count: 6", "// field count: 1",
            "// method count: 1"] ++ head ++
          ["\t//---------- Fields ----------", "\t@A(A=\"x\\ny\")", declaration] ++
          ["", "\t//---------- Methods ----------"] ++ methodBlock ++ ["\x7d"] ∧
        "A;".toList <:+ declaration.toList := by
  have hnames : ∀ t ∈ annotatedClass.shownNames (.ofPool annotatedClass.pool), OneLine t := by
    decide +kernel
  obtain ⟨head, fieldBlocks, methodBlocks, hlines, -, hfields, hmethods⟩ := lines_render hnames
  obtain ⟨fieldBlock, rfl⟩ := List.length_eq_one_iff.mp hfields.length_eq.symm
  obtain ⟨methodBlock, rfl⟩ := List.length_eq_one_iff.mp hmethods.length_eq.symm
  obtain ⟨⟨declaration, hblock, hending⟩, -⟩ := List.forall₂_cons.mp hfields
  have hannotation : (annotatedClass.fields.flatMap fun field => field.attributes.flatMap fun a =>
      a.annotations.getD []).map (fun use => "\t" ++ use.text (.ofPool annotatedClass.pool)) =
        ["\t@A(A=\"x\\ny\")"] := by
    decide +kernel
  have hfieldBlock : fieldBlock = ["\t@A(A=\"x\\ny\")", declaration] :=
    hblock.trans (congrArg (· ++ [declaration]) hannotation)
  refine ⟨hnames, head, declaration, methodBlock, ?_, hending⟩
  rw [hlines, hfieldBlock, List.flatten_singleton, List.flatten_singleton,
    List.append_assoc _ _ methodBlock]
  rfl

end ClassFile

end ClassOutline
