/-
  Proofs/AnnotationUse/OneLine.lean --- annotations on one line.

  The text of an annotation is made of names and types, which are shown as they are, of
  constants, which are quoted or numbers, and of marks.  Only a name or a type can bring a
  newline, so an annotation takes one line if none of them does.
-/
import ClassOutline.AnnotationUse.Render
import ClassOutline.Proofs.ConstantPool.Dump

set_option autoImplicit false

namespace ClassOutline

open Text

/-! ## Constants -/

theorem oneLine_characterText (value : Int32) : OneLine (characterText value) := by
  rw [characterText]
  split
  · exact oneLine_quoteChar _
  · exact oneLine_intText _

theorem oneLine_of_constantText? {kind : ConstantKind} {entry : Entry} {text : String}
    (h : constantText? kind entry = some text) : OneLine text := by
  unfold constantText? at h
  split at h
  case h_1 value =>
    obtain rfl := Option.some.inj h
    split <;> decide
  case h_2 value =>
    obtain rfl := Option.some.inj h
    exact oneLine_characterText value
  case h_3 | h_4 | h_5 =>
    obtain rfl := Option.some.inj h
    exact oneLine_intText _
  case h_6 =>
    obtain rfl := Option.some.inj h
    exact (oneLine_intText _).append (by decide)
  case h_7 bits =>
    obtain rfl := Option.some.inj h
    exact (Decimal.oneLine_textOfSingle bits).append (by decide)
  case h_8 bits =>
    obtain rfl := Option.some.inj h
    exact Decimal.oneLine_textOfDouble bits
  case h_9 quoted =>
    obtain rfl := Option.some.inj h
    exact oneLine_quoteString quoted
  case h_10 => cases h

/-- A constant stays on one line, whatever text or character it is. -/
theorem oneLine_constantText {legend : Legend}
    (hmissing : ∀ index, OneLine (legend.missingConstant index)) (kind : ConstantKind)
    (index : UInt16) : OneLine (constantText legend kind index) := by
  rw [constantText]
  split
  · rename_i entry _
    cases htext : constantText? kind entry with
    | none => exact hmissing index
    | some text => exact oneLine_of_constantText? htext
  · exact hmissing index

/-! ## Lists of texts -/

theorem oneLine_bracedText {items : List String} (h : ∀ t ∈ items, OneLine t) :
    OneLine (bracedText items) := by
  have hitems : OneLine (", ".intercalate items) := oneLine_intercalate (by decide) h
  exact (OneLine.append (by decide) hitems).append (by decide)

theorem oneLine_argumentText {items : List String} (h : ∀ t ∈ items, OneLine t) :
    OneLine (argumentText items) := by
  cases items with
  | nil => decide
  | cons item rest =>
    have hitems : OneLine (", ".intercalate (item :: rest)) := oneLine_intercalate (by decide) h
    exact (OneLine.append (by decide) hitems).append (by decide)

/-! ## Values and annotations -/

mutual

/-- The texts that an element value shows for names and types, at any depth. -/
def ElementValue.shownNames (legend : Legend) : ElementValue → List String
  | .constant _ _ => []
  | .enumConstant typeName constantName =>
    [typeText legend typeName, utf8Text legend constantName]
  | .classLiteral index => [literalText (utf8Text legend index)]
  | .nested value => value.shownNames legend
  | .array values => ElementValue.allShownNames legend values

/-- The texts that an annotation shows for names and types. -/
def AnnotationUse.shownNames (legend : Legend) : AnnotationUse → List String
  | ⟨typeIndex, elements⟩ =>
    typeText legend typeIndex :: Element.allShownNames legend elements

/-- The texts that elements show for names and types. -/
def Element.allShownNames (legend : Legend) : List Element → List String
  | [] => []
  | ⟨name, value⟩ :: rest =>
    utf8Text legend name :: (value.shownNames legend ++ Element.allShownNames legend rest)

/-- The texts that element values show for names and types. -/
def ElementValue.allShownNames (legend : Legend) : List ElementValue → List String
  | [] => []
  | value :: rest => value.shownNames legend ++ ElementValue.allShownNames legend rest

end

section Values

variable {legend : Legend}

mutual

/-- A value whose names are on one line each is on one line, however deep it nests. -/
theorem ElementValue.oneLine_text (hmissing : ∀ index, OneLine (legend.missingConstant index)) :
    ∀ {v : ElementValue}, (∀ t ∈ v.shownNames legend, OneLine t) → OneLine (v.text legend)
  | .constant kind index, _ => by
    rw [ElementValue.text]
    exact oneLine_constantText hmissing kind index
  | .enumConstant typeName constantName, h => by
    rw [ElementValue.shownNames] at h
    rw [ElementValue.text]
    have htype : OneLine (typeText legend typeName) := h _ (by simp)
    have hname : OneLine (utf8Text legend constantName) := h _ (by simp)
    exact (htype.append (by decide)).append hname
  | .classLiteral index, h => by
    rw [ElementValue.shownNames] at h
    rw [ElementValue.text]
    exact h _ (List.mem_singleton_self _)
  | .nested value, h => by
    rw [ElementValue.shownNames] at h
    rw [ElementValue.text]
    exact AnnotationUse.oneLine_text hmissing h
  | .array values, h => by
    rw [ElementValue.shownNames] at h
    rw [ElementValue.text]
    exact oneLine_bracedText (ElementValue.oneLine_texts hmissing (by simp) h)

/-- An annotation whose names are on one line each is on one line. -/
theorem AnnotationUse.oneLine_text (hmissing : ∀ index, OneLine (legend.missingConstant index)) :
    ∀ {use : AnnotationUse}, (∀ t ∈ use.shownNames legend, OneLine t) → OneLine (use.text legend)
  | ⟨typeIndex, elements⟩, h => by
    rw [AnnotationUse.shownNames, List.forall_mem_cons] at h
    rw [AnnotationUse.text]
    have helements : ∀ t ∈ Element.texts legend [] elements, OneLine t :=
      Element.oneLine_texts hmissing (by simp) h.2
    exact (OneLine.append (by decide) h.1).append (oneLine_argumentText helements)

theorem Element.oneLine_texts (hmissing : ∀ index, OneLine (legend.missingConstant index)) :
    ∀ {elements : List Element} {before : List String}, (∀ t ∈ before, OneLine t) →
      (∀ t ∈ Element.allShownNames legend elements, OneLine t) →
      ∀ t ∈ Element.texts legend before elements, OneLine t
  | [], before, hbefore, _ => by
    rw [Element.texts]
    exact fun t ht => hbefore t (List.mem_reverse.mp ht)
  | ⟨name, value⟩ :: rest, before, hbefore, h => by
    rw [Element.allShownNames, List.forall_mem_cons, List.forall_mem_append] at h
    obtain ⟨hname, hvalue, hrest⟩ := h
    rw [Element.texts]
    refine Element.oneLine_texts hmissing (List.forall_mem_cons.mpr ⟨?_, hbefore⟩) hrest
    exact (hname.append (by decide)).append (ElementValue.oneLine_text hmissing hvalue)

theorem ElementValue.oneLine_texts (hmissing : ∀ index, OneLine (legend.missingConstant index)) :
    ∀ {values : List ElementValue} {before : List String}, (∀ t ∈ before, OneLine t) →
      (∀ t ∈ ElementValue.allShownNames legend values, OneLine t) →
      ∀ t ∈ ElementValue.texts legend before values, OneLine t
  | [], before, hbefore, _ => by
    rw [ElementValue.texts]
    exact fun t ht => hbefore t (List.mem_reverse.mp ht)
  | value :: rest, before, hbefore, h => by
    rw [ElementValue.allShownNames, List.forall_mem_append] at h
    rw [ElementValue.texts]
    refine ElementValue.oneLine_texts hmissing (List.forall_mem_cons.mpr ⟨?_, hbefore⟩) h.2
    exact ElementValue.oneLine_text hmissing h.1

end

end Values

end ClassOutline
