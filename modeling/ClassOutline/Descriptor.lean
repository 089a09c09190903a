/-
  Descriptor.lean --- the types of fields and methods, as class files spell them.

  A field type is a base type behind any number of `[`, one for each array
  dimension.  A base type is one letter, or a class name between `L` and `;`.  A
  method type is the parameter types between parentheses and the return type,
  with `V` for none.  Readers take a type from the front of a text and give the
  rest back; `parse` and its kin demand that nothing is left.
-/
set_option autoImplicit false

namespace ClassOutline

/-! ## Types -/

/-- A type that is no array. -/
inductive BaseType where
  | byte
  | char
  | double
  | float
  | int
  | long
  | short
  | boolean
  /-- Instances of a class, by its name with slashes. -/
  | object (className : String)
  deriving DecidableEq, Repr

/-- The type of a field: a base type, or arrays of it. -/
structure FieldType where
  /-- The number of array dimensions. -/
  dimensions : Nat
  base : BaseType
  deriving DecidableEq, Repr

/-- The type of a method; no return type stands for `void`. -/
structure MethodType where
  parameters : List FieldType
  returnType : Option FieldType
  deriving DecidableEq, Repr

/-! ## Reading -/

/-- Reads a base type from the front of a text. -/
def BaseType.read : List Char → Option (BaseType × List Char)
  | 'B' :: rest => some (.byte, rest)
  | 'C' :: rest => some (.char, rest)
  | 'D' :: rest => some (.double, rest)
  | 'F' :: rest => some (.float, rest)
  | 'I' :: rest => some (.int, rest)
  | 'J' :: rest => some (.long, rest)
  | 'S' :: rest => some (.short, rest)
  | 'Z' :: rest => some (.boolean, rest)
  | 'L' :: rest =>
    match rest.dropWhile (· != ';') with
    | _ :: after => some (.object (String.ofList (rest.takeWhile (· != ';'))), after)
    | [] => none
  | _ => none

theorem BaseType.length_lt_of_read {cs rest : List Char} {base : BaseType}
    (h : BaseType.read cs = some (base, rest)) : rest.length < cs.length := by
  unfold BaseType.read at h
  split at h
  case h_9 name =>
    have hle := (List.dropWhile_suffix (· != ';') (l := name)).length_le
    split at h
    · rename_i hdrop
      cases h
      rw [hdrop] at hle
      simp only [List.length_cons] at hle ⊢
      omega
    · cases h
  case h_10 => cases h
  all_goals
    cases h
    simp

/-- Reads a field type from the front of a text, behind `dimensions` brackets
that were read before. -/
def FieldType.readBehind (dimensions : Nat) : List Char → Option (FieldType × List Char)
  | '[' :: rest => readBehind (dimensions + 1) rest
  | cs => (BaseType.read cs).map fun (base, rest) => (⟨dimensions, base⟩, rest)

/-- Reads a field type from the front of a text. -/
def FieldType.read (cs : List Char) : Option (FieldType × List Char) :=
  FieldType.readBehind 0 cs

theorem FieldType.length_lt_of_readBehind {dimensions : Nat} {cs rest : List Char}
    {type : FieldType} (h : FieldType.readBehind dimensions cs = some (type, rest)) :
    rest.length < cs.length := by
  induction cs generalizing dimensions with
  | nil => simp [readBehind, BaseType.read] at h
  | cons c cs ih =>
    by_cases hc : c = '['
    · subst hc
      rw [readBehind] at h
      have := ih h
      simp only [List.length_cons]
      omega
    · have hbase : readBehind dimensions (c :: cs) =
          (BaseType.read (c :: cs)).map fun (base, rest) => (⟨dimensions, base⟩, rest) := by
        unfold readBehind
        split
        · rename_i heq; cases heq; exact absurd rfl hc
        · rfl
      rw [hbase, Option.map_eq_some_iff] at h
      obtain ⟨⟨base, after⟩, hread, heq⟩ := h
      cases heq
      exact BaseType.length_lt_of_read hread

theorem FieldType.length_lt_of_read {cs rest : List Char} {type : FieldType}
    (h : FieldType.read cs = some (type, rest)) : rest.length < cs.length :=
  FieldType.length_lt_of_readBehind h

/-- Reads as many field types as there are at the front of a text, after those
that were read before, last one first. -/
def FieldType.readMany (before : List FieldType) (cs : List Char) : List FieldType × List Char :=
  match h : FieldType.read cs with
  | some (type, rest) =>
    have : rest.length < cs.length := FieldType.length_lt_of_read h
    readMany (type :: before) rest
  | none => (before.reverse, cs)
termination_by cs.length

/-- Reads a return type from the front of a text: `V`, for none, or a field
type. -/
def FieldType.readReturn : List Char → Option (Option FieldType × List Char)
  | 'V' :: rest => some (none, rest)
  | cs => (FieldType.read cs).map fun (type, rest) => (some type, rest)

/-! ## Parsing whole texts -/

/-- What was read, if nothing is left. -/
def whole {α : Type} : Option (α × List Char) → Option α
  | some (a, []) => some a
  | _ => none

/-- The field type that a text spells. -/
def FieldType.parse (text : String) : Option FieldType := whole (FieldType.read text.toList)

/-- The return type that a text spells; `some none` is the answer for `V`. -/
def FieldType.parseReturn (text : String) : Option (Option FieldType) :=
  whole (FieldType.readReturn text.toList)

/-- The method type that a text spells. -/
def MethodType.parse (text : String) : Option MethodType :=
  match text.toList with
  | '(' :: cs =>
    match FieldType.readMany [] cs with
    | (parameters, ')' :: rest) =>
      (whole (FieldType.readReturn rest)).map fun returnType => ⟨parameters, returnType⟩
    | _ => none
  | _ => none

/-! ## Source text -/

/-- A class name with dots for its slashes. -/
def dotted (className : String) : String :=
  String.ofList (className.toList.map fun c => if c = '/' then '.' else c)

/-- A base type as source text. -/
def BaseType.text : BaseType → String
  | .byte => "byte"
  | .char => "char"
  | .double => "double"
  | .float => "float"
  | .int => "int"
  | .long => "long"
  | .short => "short"
  | .boolean => "boolean"
  | .object className => dotted className

/-- A field type as source text, `[]` once for each dimension. -/
def FieldType.text (type : FieldType) : String :=
  String.join (type.base.text :: List.replicate type.dimensions "[]")

end ClassOutline
