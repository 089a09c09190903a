/-
  Attribute/Summary.lean --- an attribute as one line, field by field.

  Every field is given by name, indices as numbers and annotations in full; of
  the payload only the length is told.
-/
import ClassOutline.Attribute.Basic

set_option autoImplicit false

namespace ClassOutline

/-- A record as text: its name, and its fields between braces. -/
def recordText (name : String) (fields : List (String × String)) : String :=
  name ++ " \x7b " ++ ", ".intercalate (fields.map fun (field, text) => field ++ ": " ++ text) ++
    " \x7d"

/-- A list as text, between brackets. -/
def listText (items : List String) : String := "[" ++ ", ".intercalate items ++ "]"

mutual

/-- An element value as text. -/
def ElementValue.summary : ElementValue → String
  | .constant kind index =>
    recordText "Const" [("kind", kind.name), ("const_value_index", toString index)]
  | .enumConstant typeName constantName =>
    recordText "Enum"
      [("type_name_index", toString typeName), ("const_name_index", toString constantName)]
  | .classLiteral index => recordText "Class" [("class_info_index", toString index)]
  | .nested value => "Annotation(" ++ value.summary ++ ")"
  | .array values => "Array(" ++ listText (ElementValue.summaries values) ++ ")"

/-- An annotation as text. -/
def AnnotationUse.summary : AnnotationUse → String
  | ⟨typeIndex, elements⟩ =>
    recordText "Annotation"
      [("type_index", toString typeIndex),
       ("element_value_pairs", listText (Element.summaries elements))]

/-- Elements as texts. -/
def Element.summaries : List Element → List String
  | [] => []
  | ⟨name, value⟩ :: rest =>
    recordText "ElementValuePair"
      [("element_name_index", toString name), ("value", value.summary)] ::
      Element.summaries rest

/-- Element values as texts. -/
def ElementValue.summaries : List ElementValue → List String
  | [] => []
  | value :: rest => value.summary :: ElementValue.summaries rest

end

/-- Annotations as text, if there are any to be had. -/
def annotationsSummary : Option (List AnnotationUse) → String
  | none => "None"
  | some annotations => "Some(" ++ listText (annotations.map AnnotationUse.summary) ++ ")"

/-- An attribute as text. -/
def Attribute.summary (a : Attribute) : String :=
  recordText "Attribute"
    [("attribute_name_index", toString a.nameIndex),
     ("info", Text.quoteString s!"({a.payload.length} bytes)"),
     ("annotations", annotationsSummary a.annotations)]

end ClassOutline
