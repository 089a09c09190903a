/-
  Proofs/Descriptor/Field.lean --- which texts spell a field type.

  A reader takes a type from the front of a text just if the text opens with the
  spelling of that type, whatever follows: a class name ends at its first
  semicolon, and every other type ends by itself.  So a text spells a type just if
  it is the spelling of the type, and no spelling is the front of another one.  As
  source text the brackets of a type move behind its name.
-/
import ClassOutline.Descriptor.Spelling

set_option autoImplicit false

namespace ClassOutline

variable {cs rest : List Char}

/-! ## Base types -/

namespace BaseType

variable {base : BaseType}

/-- A class name is read up to the semicolon that ends it. -/
theorem read_object {className : List Char} (h : ';' ∉ className) (rest : List Char) :
    BaseType.read ('L' :: (className ++ ';' :: rest)) =
      some (.object (String.ofList className), rest) := by
  have hname : ∀ c ∈ className, (c != ';') = true := by
    intro c hc
    rw [bne_iff_ne]
    intro hsemicolon
    exact h (hsemicolon ▸ hc)
  have htake : (className ++ ';' :: rest).takeWhile (· != ';') = className := by
    rw [List.takeWhile_append_of_pos hname, List.takeWhile_cons_of_neg (by decide), List.append_nil]
  have hdrop : (className ++ ';' :: rest).dropWhile (· != ';') = ';' :: rest := by
    rw [List.dropWhile_append_of_pos hname, List.dropWhile_cons_of_neg (by decide)]
  rw [BaseType.read, hdrop, htake]

theorem read_spelling_append (h : base.Spellable) (rest : List Char) :
    BaseType.read (base.spelling ++ rest) = some (base, rest) := by
  cases base with
  | object className =>
    have hread := read_object h rest
    rw [String.ofList_toList] at hread
    rw [spelling, List.cons_append, List.append_assoc, List.singleton_append]
    exact hread
  | _ => rfl

theorem spelling_of_read (h : BaseType.read cs = some (base, rest)) :
    base.Spellable ∧ cs = base.spelling ++ rest := by
  unfold BaseType.read at h
  split at h
  case h_9 body =>
    -- The name is what stands before the first semicolon.
    split at h
    · rename_i c after hdrop
      cases h
      have hhead : (c != ';') = false := by
        have hnot := List.head?_dropWhile_not (· != ';') body
        rw [hdrop] at hnot
        exact hnot
      have hbody := List.takeWhile_append_dropWhile (p := (· != ';')) (l := body)
      rw [hdrop, bne_eq_false_iff_eq.mp hhead] at hbody
      refine ⟨?_, ?_⟩
      · intro hmem
        rw [String.toList_ofList] at hmem
        have hne := List.all_eq_true.mp List.all_takeWhile _ hmem
        exact absurd hne (by decide)
      · rw [spelling, String.toList_ofList, List.cons_append, List.append_assoc,
          List.singleton_append, hbody]
    · cases h
  case h_10 => cases h
  all_goals
    cases h
    exact ⟨trivial, rfl⟩

/-- The spelling of a base type opens with a character that is none of those with a
meaning of their own around it. -/
theorem head?_spelling_append_ne (base : BaseType) (rest : List Char) :
    (base.spelling ++ rest).head? ≠ some '[' ∧ (base.spelling ++ rest).head? ≠ some 'V' := by
  obtain ⟨c, hc, hhead⟩ := base.head?_spelling
  obtain ⟨body, hbody⟩ := List.head?_eq_some_iff.mp hhead
  rw [hbody, List.cons_append, List.head?_cons]
  constructor
  · intro heq
    obtain rfl := Option.some.inj heq
    exact absurd hc (by decide)
  · intro heq
    obtain rfl := Option.some.inj heq
    exact absurd hc (by decide)

end BaseType

/-! ## Field types -/

namespace FieldType

variable {type : FieldType}

theorem readBehind_of_head?_ne (h : cs.head? ≠ some '[') (dimensions : Nat) :
    readBehind dimensions cs =
      (BaseType.read cs).map fun (base, rest) => (⟨dimensions, base⟩, rest) := by
  unfold readBehind
  split
  · exact absurd rfl h
  · rfl

theorem readBehind_replicate_append (dimensions more : Nat) (cs : List Char) :
    readBehind dimensions (List.replicate more '[' ++ cs) = readBehind (dimensions + more) cs := by
  induction more generalizing dimensions with
  | zero => rfl
  | succ more ih =>
    rw [List.replicate_succ, List.cons_append, readBehind, ih]
    congr 1
    omega

theorem read_spelling_append (h : type.Spellable) (rest : List Char) :
    FieldType.read (type.spelling ++ rest) = some (type, rest) := by
  rw [FieldType.read, spelling, List.append_assoc, readBehind_replicate_append,
    readBehind_of_head?_ne (type.base.head?_spelling_append_ne rest).1,
    BaseType.read_spelling_append h, Nat.zero_add]
  rfl

theorem spelling_of_readBehind {dimensions : Nat}
    (h : readBehind dimensions cs = some (type, rest)) :
    type.Spellable ∧ ∃ more, type.dimensions = dimensions + more ∧
      cs = List.replicate more '[' ++ (type.base.spelling ++ rest) := by
  induction cs generalizing dimensions with
  | nil =>
    rw [readBehind_of_head?_ne (by simp)] at h
    cases h
  | cons c cs ih =>
    by_cases hc : c = '['
    · subst hc
      rw [readBehind] at h
      obtain ⟨hspellable, more, hdimensions, hcs⟩ := ih h
      refine ⟨hspellable, more + 1, ?_, ?_⟩
      · omega
      · rw [List.replicate_succ, List.cons_append, ← hcs]
    · have hhead : (c :: cs).head? ≠ some '[' := fun heq => hc (Option.some.inj heq)
      rw [readBehind_of_head?_ne hhead, Option.map_eq_some_iff] at h
      obtain ⟨⟨base, after⟩, hread, heq⟩ := h
      cases heq
      obtain ⟨hspellable, hcs⟩ := BaseType.spelling_of_read hread
      exact ⟨hspellable, 0, rfl, hcs⟩

/-- A type is read from a text that opens with its spelling, and from no other. -/
theorem read_eq_some_iff :
    FieldType.read cs = some (type, rest) ↔ type.Spellable ∧ cs = type.spelling ++ rest := by
  constructor
  · intro h
    obtain ⟨hspellable, more, hdimensions, hcs⟩ := spelling_of_readBehind h
    rw [Nat.zero_add] at hdimensions
    rw [spelling, hdimensions, List.append_assoc]
    exact ⟨hspellable, hcs⟩
  · rintro ⟨hspellable, rfl⟩
    exact read_spelling_append hspellable rest

/-- The types that are read are not confused with a missing return type. -/
theorem head?_ne_of_read (h : FieldType.read cs = some (type, rest)) : cs.head? ≠ some 'V' := by
  obtain ⟨-, rfl⟩ := read_eq_some_iff.mp h
  obtain ⟨dimensions, base⟩ := type
  cases dimensions with
  | zero => exact (base.head?_spelling_append_ne rest).2
  | succ dimensions =>
    rw [spelling_succ]
    intro heq
    exact absurd (Option.some.inj heq) (by decide)

end FieldType

/-! ## Return types -/

theorem FieldType.readReturn_of_head?_ne (h : cs.head? ≠ some 'V') :
    FieldType.readReturn cs = (FieldType.read cs).map fun (type, rest) => (some type, rest) := by
  unfold FieldType.readReturn
  split
  · exact absurd rfl h
  · rfl

/-- A return type is read from a text that opens with its spelling, and from no
other. -/
theorem FieldType.readReturn_eq_some_iff {returnType : Option FieldType} :
    FieldType.readReturn cs = some (returnType, rest) ↔
      (∀ type ∈ returnType, type.Spellable) ∧
        cs = FieldType.returnSpelling returnType ++ rest := by
  constructor
  · intro h
    by_cases hvoid : cs.head? = some 'V'
    · obtain ⟨after, rfl⟩ := List.head?_eq_some_iff.mp hvoid
      rw [FieldType.readReturn] at h
      cases h
      exact ⟨by simp, rfl⟩
    · rw [FieldType.readReturn_of_head?_ne hvoid, Option.map_eq_some_iff] at h
      obtain ⟨⟨type, after⟩, hread, heq⟩ := h
      cases heq
      obtain ⟨hspellable, hcs⟩ := FieldType.read_eq_some_iff.mp hread
      refine ⟨?_, hcs⟩
      intro type' htype'
      obtain rfl := Option.mem_some_iff.mp htype'
      exact hspellable
  · rintro ⟨hspellable, rfl⟩
    cases returnType with
    | none => rfl
    | some type =>
      have hread := FieldType.read_spelling_append (hspellable type rfl) rest
      have hhead := FieldType.head?_ne_of_read hread
      rw [FieldType.returnSpelling, FieldType.readReturn_of_head?_ne hhead, hread]
      rfl

/-! ## Whole texts -/

theorem whole_eq_some_iff {α : Type} {found : Option (α × List Char)} {a : α} :
    whole found = some a ↔ found = some (a, []) := by
  unfold whole
  split
  · simp
  · rename_i hnot
    constructor
    · intro h
      cases h
    · intro h
      exact absurd h (hnot a)

namespace FieldType

variable {text : String} {type : FieldType}

theorem parse_eq_some_iff :
    FieldType.parse text = some type ↔ type.Spellable ∧ text.toList = type.spelling := by
  rw [FieldType.parse, whole_eq_some_iff, read_eq_some_iff, List.append_nil]

theorem parseReturn_eq_some_iff {returnType : Option FieldType} :
    FieldType.parseReturn text = some returnType ↔
      (∀ type ∈ returnType, type.Spellable) ∧ text.toList = returnSpelling returnType := by
  rw [FieldType.parseReturn, whole_eq_some_iff, readReturn_eq_some_iff, List.append_nil]

/-- As a return type a text spells the same field type as by itself. -/
theorem parseReturn_eq_some_some_iff :
    FieldType.parseReturn text = some (some type) ↔ FieldType.parse text = some type := by
  rw [parseReturn_eq_some_iff, parse_eq_some_iff, returnSpelling]
  simp only [Option.mem_some_iff, forall_eq']

theorem parseReturn_eq_some_none_iff : FieldType.parseReturn text = some none ↔ text = "V" := by
  rw [parseReturn_eq_some_iff, returnSpelling, ← String.toList_inj]
  constructor
  · intro h
    exact h.2
  · intro h
    exact ⟨by simp, h⟩

end FieldType

/-! ## Source text -/

/-- The name in source text of the base type that some characters spell. -/
inductive NamedInSource : List Char → String → Prop
  | byte : NamedInSource ['B'] "byte"
  | char : NamedInSource ['C'] "char"
  | double : NamedInSource ['D'] "double"
  | float : NamedInSource ['F'] "float"
  | int : NamedInSource ['I'] "int"
  | long : NamedInSource ['J'] "long"
  | short : NamedInSource ['S'] "short"
  | boolean : NamedInSource ['Z'] "boolean"
  /-- A class is named with a dot for each slash. -/
  | object {className : List Char} (h : ';' ∉ className) :
      NamedInSource ('L' :: (className ++ [';']))
        (String.ofList (className.map fun c => if c = '/' then '.' else c))

theorem BaseType.namedInSource {base : BaseType} (h : base.Spellable) :
    NamedInSource base.spelling base.text := by
  cases base with
  | byte => exact .byte
  | char => exact .char
  | double => exact .double
  | float => exact .float
  | int => exact .int
  | long => exact .long
  | short => exact .short
  | boolean => exact .boolean
  | object className => exact .object h

/-- Brackets at the front of a text can be told from what follows them. -/
theorem replicate_append_inj {m n : Nat} {c : Char} {front back : List Char}
    (hfront : front.head? ≠ some c) (hback : back.head? ≠ some c)
    (h : List.replicate m c ++ front = List.replicate n c ++ back) : m = n ∧ front = back := by
  induction m generalizing n with
  | zero =>
    cases n with
    | zero => exact ⟨rfl, h⟩
    | succ n =>
      rw [List.replicate_zero, List.nil_append] at h
      rw [h] at hfront
      exact absurd rfl hfront
  | succ m ih =>
    cases n with
    | zero =>
      rw [List.replicate_zero, List.nil_append] at h
      rw [← h] at hback
      exact absurd rfl hback
    | succ n =>
      rw [List.replicate_succ, List.replicate_succ, List.cons_append, List.cons_append] at h
      obtain ⟨hsame, hrest⟩ := ih (List.cons.inj h).2
      exact ⟨congrArg (· + 1) hsame, hrest⟩

/-- A type is shown as the name of its base, and a pair of brackets behind it for
each bracket that its spelling opens with. -/
theorem FieldType.text_of_spelling {type : FieldType} (h : type.Spellable) {n : Nat}
    {base : List Char} (hbase : base.head? ≠ some '[')
    (hspelling : type.spelling = List.replicate n '[' ++ base) :
    ∃ name, NamedInSource base name ∧ type.text = name ++ String.join (List.replicate n "[]") := by
  have hhead := (type.base.head?_spelling_append_ne []).1
  rw [List.append_nil] at hhead
  obtain ⟨rfl, rfl⟩ := replicate_append_inj hhead hbase hspelling
  refine ⟨type.base.text, type.base.namedInSource h, ?_⟩
  rw [text, String.join_cons]

namespace FieldType

/-- A text spells a field type just if it is the spelling of the type, and by itself
just if as a return type, where `V` spells that there is none.  The type is shown as
the name of its base with a pair of brackets behind it for each bracket in front of
the spelling.  Any other text spells nothing. -/
theorem parse_iff_spelling_and_text :
    (∀ text type, FieldType.parse text = some type ↔
      type.Spellable ∧ text.toList = type.spelling) ∧
    (∀ text type, FieldType.parseReturn text = some (some type) ↔
      type.Spellable ∧ text.toList = type.spelling) ∧
    (∀ text, FieldType.parseReturn text = some none ↔ text = "V") ∧
    (∀ text type n base, FieldType.parse text = some type →
      text.toList = List.replicate n '[' ++ base → base.head? ≠ some '[' →
      ∃ name, NamedInSource base name ∧
        type.text = name ++ String.join (List.replicate n "[]")) ∧
    ∀ text, (∀ type : FieldType, type.Spellable → text.toList ≠ type.spelling) →
      FieldType.parse text = none ∧ (text ≠ "V" → FieldType.parseReturn text = none) := by
  refine ⟨?_, ?_, ?_, ?_, ?_⟩
  · intro text type
    exact parse_eq_some_iff
  · intro text type
    exact parseReturn_eq_some_some_iff.trans parse_eq_some_iff
  · intro text
    exact parseReturn_eq_some_none_iff
  · intro text type n base hparse htext hbase
    obtain ⟨hspellable, hspelling⟩ := parse_eq_some_iff.mp hparse
    exact text_of_spelling hspellable hbase (hspelling.symm.trans htext)
  · intro text hnot
    have hparse : ∀ type, FieldType.parse text ≠ some type := by
      intro type hparse
      obtain ⟨hspellable, hspelling⟩ := parse_eq_some_iff.mp hparse
      exact hnot type hspellable hspelling
    refine ⟨Option.eq_none_iff_forall_ne_some.mpr hparse, ?_⟩
    intro hvoid
    apply Option.eq_none_iff_forall_ne_some.mpr
    intro returnType hreturn
    cases returnType with
    | none => exact hvoid (parseReturn_eq_some_none_iff.mp hreturn)
    | some type => exact hparse type (parseReturn_eq_some_some_iff.mp hreturn)

/-- An array of arrays of a class whose name holds slashes, a bracket and a
parenthesis, and a class name without an end. -/
theorem parse_array_and_open_name :
    (FieldType.parse "[[La/[)/B;" = some ⟨2, .object "a/[)/B"⟩ ∧
      ∃ name, NamedInSource "La/[)/B;".toList name ∧
        (⟨2, .object "a/[)/B"⟩ : FieldType).text = name ++ String.join (List.replicate 2 "[]")) ∧
    (∀ type : FieldType, type.Spellable → "La/B".toList ≠ type.spelling) ∧
      FieldType.parseReturn "La/B" = none := by
  obtain ⟨hparse, -, -, htext, hnone⟩ := parse_iff_spelling_and_text
  have hname : ';' ∉ "a/[)/B".toList := by decide +kernel
  have harray : FieldType.parse "[[La/[)/B;" = some ⟨2, .object "a/[)/B"⟩ :=
    (hparse _ _).mpr ⟨hname, by decide +kernel⟩
  have hopen : ∀ type : FieldType, type.Spellable → "La/B".toList ≠ type.spelling := by
    intro type hspellable hspelling
    have hread : FieldType.parse "La/B" = none := by decide +kernel
    rw [(hparse _ type).mpr ⟨hspellable, hspelling⟩] at hread
    cases hread
  refine ⟨⟨harray, ?_⟩, hopen, (hnone _ hopen).2 (by decide)⟩
  exact htext _ _ 2 "La/[)/B;".toList harray (by decide +kernel) (by decide +kernel)

end FieldType

end ClassOutline
