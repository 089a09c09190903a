/-
  ClassFile/Render.lean --- a class file as a declaration in source text.

  The text is a list of lines: four comments, the annotations of the class, its
  declaration, its fields, its methods and a closing brace.  Indices are shown by
  a legend, which is that of the pool unless another one is given.
-/
import ClassOutline.AnnotationUse.Render
import ClassOutline.ClassFile.Basic

set_option autoImplicit false

namespace ClassOutline

/-! ## Lines -/

/-- Lines with a mark at the end of each but the last. -/
def markOthers (mark : String) (lines : List String) : List String :=
  lines.dropLast.map (· ++ mark) ++ lines.getLast?.toList

/-- Lines with a mark at the end of the last one. -/
def markLast (mark : String) (lines : List String) : List String :=
  lines.dropLast ++ (lines.getLast?.map (· ++ mark)).toList

/-- The line of an annotation, behind an indentation. -/
def annotationLines (legend : Legend) (indentation : String) (attributes : List Attribute) :
    List String :=
  (Attribute.allAnnotations attributes).map fun use => indentation ++ use.text legend

/-! ## Members -/

/-- A field without its annotations. -/
def fieldLine (legend : Legend) (field : Member .field) : String :=
  "\t" ++ field.access.modifiers ++ " " ++ typeText legend field.descriptorIndex ++ " " ++
    utf8Text legend field.nameIndex ++ ";"

/-- What follows the modifiers of a method of a given name and descriptor.  A
method whose name opens with `<` has no return type in source text, and a
descriptor that spells no method type is written as it is. -/
def signature (name descriptor : String) : String :=
  match MethodType.parse descriptor with
  | none => name ++ " " ++ descriptor ++ ";"
  | some type =>
    (if name.toList.head? = some '<' then "" else returnTypeText type.returnType ++ " ") ++
      name ++ "(" ++ ", ".intercalate (type.parameters.map FieldType.text) ++ ");"

/-- A method without its annotations. -/
def methodLine (legend : Legend) (method : Member .method) : String :=
  "\t" ++ method.access.modifiers ++ " " ++
    signature (utf8Text legend method.nameIndex) (utf8Text legend method.descriptorIndex)

/-- The lines of members, each behind its annotations. -/
def memberLines {d : Declaration} (legend : Legend) (line : Member d → String)
    (members : List (Member d)) : List String :=
  members.flatMap fun member => annotationLines legend "\t" member.attributes ++ [line member]

namespace ClassFile

/-! ## Class files -/

/-- The comments that open the text. -/
def commentLines (c : ClassFile) : List String :=
  [s!"// version: {c.majorVersion}.{c.minorVersion}",
   s!"// constant pool count: {c.pool.count}",
   s!"// field count: {c.fields.length}",
   s!"// method count: {c.methods.length}"]

/-- Names in a column, the first one behind a keyword, with commas between
them. -/
def nameLines (keyword : String) : List String → List String
  | [] => []
  | name :: rest =>
    let column := String.ofList (List.replicate keyword.length ' ')
    markOthers "," (("\t\t" ++ keyword ++ name) :: rest.map fun name => "\t\t" ++ column ++ name)

/-- The lines of the superclass, of which an interface shows none. -/
def superLines (legend : Legend) (c : ClassFile) : List String :=
  if c.access.has .interface || c.superClass = 0 then []
  else ["\t\textends " ++ classText legend c.superClass]

/-- The declaration of the class, up to the brace that opens its body. -/
def declarationLines (legend : Legend) (c : ClassFile) : List String :=
  let keyword := if c.access.has .interface then "extends " else "implements "
  markLast " \x7b" <|
    (c.access.modifiers ++ " " ++ classText legend c.thisClass) :: c.superLines legend ++
      nameLines keyword (c.interfaces.map (classText legend))

/-- The fields behind their heading, if there are any. -/
def fieldLines (legend : Legend) (c : ClassFile) : List String :=
  if c.fields.isEmpty then []
  else "\t//---------- Fields ----------" :: memberLines legend (fieldLine legend) c.fields

/-- The methods behind their heading, if there are any, and a line between them
and the fields. -/
def methodLines (legend : Legend) (c : ClassFile) : List String :=
  if c.methods.isEmpty then []
  else
    (if c.fields.isEmpty then [] else [""]) ++
      "\t//---------- Methods ----------" :: memberLines legend (methodLine legend) c.methods

/-- The lines of a class file. -/
def lines (legend : Legend) (c : ClassFile) : List String :=
  c.commentLines ++ annotationLines legend "" c.attributes ++ c.declarationLines legend ++
    c.fieldLines legend ++ c.methodLines legend ++ ["\x7d"]

/-- A class file as source text by a legend, without a newline at its end. -/
def renderWith (legend : Legend) (c : ClassFile) : String := "\n".intercalate (c.lines legend)

/-- A class file as source text. -/
def render (c : ClassFile) : String := c.renderWith (.ofPool c.pool)

end ClassFile

end ClassOutline
