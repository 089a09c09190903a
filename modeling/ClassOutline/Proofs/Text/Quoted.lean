/-
  Proofs/Text/Quoted.lean --- quoted text can be read back, and stays on one line.

  `unescape` reads the first character of escaped ones back and leaves what follows.  It
  undoes `escape` whatever follows, so no escaped text is that of two texts.
-/
import ClassOutline.Proofs.Text.Lines
import ClassOutline.Text.Quoted

set_option autoImplicit false

namespace ClassOutline.Text

/-! ## Hexadecimal digits -/

/-- The number that a hexadecimal digit stands for. -/
def hexDigitValue (c : Char) : Nat :=
  if c.isDigit then c.toNat - '0'.toNat else c.toNat - 'a'.toNat + 10

/-- The number that hexadecimal digits spell. -/
def ofHexDigits (digits : List Char) : Nat :=
  digits.foldl (fun n c => 16 * n + hexDigitValue c) 0

theorem hexDigitValue_digitChar : ∀ d < 16, hexDigitValue (Nat.digitChar d) = d := by
  decide

/-- Digits of a number beyond the last one are those of its sixteenth. -/
theorem toDigits_of_le {n : Nat} (h : 16 ≤ n) :
    Nat.toDigits 16 n = Nat.toDigits 16 (n / 16) ++ [Nat.digitChar (n % 16)] := by
  have hpos : 0 < n / 16 := Nat.div_pos h (by decide)
  have hlt : n % 16 < 16 := Nat.mod_lt n (by decide)
  calc Nat.toDigits 16 n = Nat.toDigits 16 (16 * (n / 16) + n % 16) := by rw [Nat.div_add_mod]
    _ = Nat.toDigits 16 (n / 16) ++ Nat.toDigits 16 (n % 16) :=
      (Nat.toDigits_append_toDigits (by decide) hpos hlt).symm
    _ = Nat.toDigits 16 (n / 16) ++ [Nat.digitChar (n % 16)] := by rw [Nat.toDigits_of_lt_base hlt]

theorem ofHexDigits_toDigits (n : Nat) : ofHexDigits (Nat.toDigits 16 n) = n := by
  induction n using Nat.strongRecOn with
  | ind n ih =>
    by_cases hlt : n < 16
    · rw [Nat.toDigits_of_lt_base hlt]
      simpa [ofHexDigits] using hexDigitValue_digitChar n hlt
    · have hge : 16 ≤ n := Nat.le_of_not_lt hlt
      have hsmaller := ih (n / 16) (by omega)
      rw [ofHexDigits] at hsmaller
      rw [toDigits_of_le hge, ofHexDigits, List.foldl_append, hsmaller, List.foldl_cons,
        List.foldl_nil, hexDigitValue_digitChar _ (Nat.mod_lt n (by decide))]
      omega

/-- Only digits are among the hexadecimal digits of a number. -/
theorem not_mem_toDigits {c : Char} (hc : ∀ d < 16, Nat.digitChar d ≠ c) (n : Nat) :
    c ∉ Nat.toDigits 16 n := by
  induction n using Nat.strongRecOn with
  | ind n ih =>
    by_cases hlt : n < 16
    · rw [Nat.toDigits_of_lt_base hlt, List.mem_singleton]
      exact (hc n hlt).symm
    · have hge : 16 ≤ n := Nat.le_of_not_lt hlt
      rw [toDigits_of_le hge, List.mem_append, List.mem_singleton, not_or]
      exact ⟨ih (n / 16) (by omega), (hc _ (Nat.mod_lt n (by decide))).symm⟩

/-! ## Reading back -/

/-- The character that a backslash and a letter stand for. -/
def escaped (letter : Char) : Char :=
  if letter = '0' then '\x00'
  else if letter = 't' then '\t'
  else if letter = 'r' then '\r'
  else if letter = 'n' then '\n'
  else letter

/-- Reads a code point between braces. -/
def unescapeCodePoint : List Char → Option (Char × List Char)
  | '\x7b' :: cs =>
    some (Char.ofNat (ofHexDigits (cs.takeWhile (· != '\x7d'))), (cs.dropWhile (· != '\x7d')).tail)
  | _ => none

/-- Reads the first of escaped characters. -/
def unescape : List Char → Option (Char × List Char)
  | [] => none
  | [c] => some (c, [])
  | c :: letter :: rest =>
    if c ≠ '\\' then some (c, letter :: rest)
    else if letter = 'u' then unescapeCodePoint rest
    else some (escaped letter, rest)

theorem unescape_of_ne {c : Char} (hc : c ≠ '\\') (rest : List Char) :
    unescape (c :: rest) = some (c, rest) := by
  cases rest with
  | nil => rfl
  | cons letter rest => rw [unescape, if_pos hc]

theorem unescape_codePointEscape (c : Char) (rest : List Char) :
    unescape (codePointEscape c ++ rest) = some (c, rest) := by
  have hbrace : '\x7d' ∉ Nat.toDigits 16 c.toNat := not_mem_toDigits (by decide) _
  have hdigits : ∀ d ∈ Nat.toDigits 16 c.toNat, (d != '\x7d') = true := by
    intro d hd
    refine bne_iff_ne.mpr ?_
    rintro rfl
    exact hbrace hd
  have hbehind : codePointEscape c ++ rest =
      '\\' :: 'u' :: '\x7b' :: (Nat.toDigits 16 c.toNat ++ '\x7d' :: rest) := by
    simp [codePointEscape]
  rw [hbehind, unescape, if_neg (by decide), if_pos rfl, unescapeCodePoint,
    List.takeWhile_append_of_pos hdigits, List.dropWhile_append_of_pos hdigits]
  simp [ofHexDigits_toDigits]

/-! ## Escaped forms -/

/-- Whether a mark can be told from the letters of the escaped forms, and from a newline. -/
def IsMark (mark : Char) : Prop := mark ∉ ['0', 't', 'r', 'n', 'u', '\n']

instance (mark : Char) : Decidable (IsMark mark) := inferInstanceAs (Decidable (¬ _))

section Mark

variable {mark : Char} (hmark : IsMark mark)

include hmark

/-- The written forms of a character: a letter behind a backslash, itself, or its code
point. -/
theorem escape_cases (c : Char) :
    (∃ letter, escape mark c = ['\\', letter] ∧ letter ≠ 'u' ∧ letter ≠ '\n' ∧
      escaped letter = c) ∨
    (escape mark c = [c] ∧ c ≠ '\\' ∧ c ≠ '\n') ∨ escape mark c = codePointEscape c := by
  unfold escape
  split
  · subst c
    exact .inl ⟨'0', rfl, by decide, by decide, rfl⟩
  split
  · subst c
    exact .inl ⟨'t', rfl, by decide, by decide, rfl⟩
  split
  · subst c
    exact .inl ⟨'r', rfl, by decide, by decide, rfl⟩
  split
  · subst c
    exact .inl ⟨'n', rfl, by decide, by decide, rfl⟩
  split
  · subst c
    exact .inl ⟨'\\', rfl, by decide, by decide, rfl⟩
  split
  · subst c
    simp only [IsMark, List.mem_cons, List.not_mem_nil, or_false, not_or] at hmark
    obtain ⟨hzero, ht, hr, hn, hu, hnewline⟩ := hmark
    refine .inl ⟨mark, rfl, hu, hnewline, ?_⟩
    rw [escaped, if_neg hzero, if_neg ht, if_neg hr, if_neg hn]
  split
  · rename_i hnewline hbackslash _ _
    exact .inr (.inl ⟨rfl, hbackslash, hnewline⟩)
  · exact .inr (.inr rfl)

/-- Reading back undoes escaping, whatever follows. -/
theorem unescape_escape (c : Char) (rest : List Char) :
    unescape (escape mark c ++ rest) = some (c, rest) := by
  rcases escape_cases hmark c with ⟨letter, hform, hu, -, hc⟩ | ⟨hform, hbackslash, -⟩ | hform
  · rw [hform, List.cons_append, List.cons_append, List.nil_append, unescape, if_neg (by decide),
      if_neg hu, hc]
  · rw [hform]
    exact unescape_of_ne hbackslash rest
  · rw [hform]
    exact unescape_codePointEscape c rest

theorem newline_not_mem_escape (c : Char) : '\n' ∉ escape mark c := by
  rcases escape_cases hmark c with ⟨letter, hform, -, hletter, -⟩ | ⟨hform, -, hnewline⟩ | hform
  · rw [hform]
    simpa using hletter.symm
  · rw [hform]
    simpa using hnewline.symm
  · have hdigits : '\n' ∉ Nat.toDigits 16 c.toNat := not_mem_toDigits (by decide) _
    rw [hform]
    simp [codePointEscape, hdigits]

/-! ## Quoted texts -/

/-- Characters are told by their escaped forms, one after the other. -/
theorem flatMap_escape_injective :
    ∀ {cs cs' : List Char}, cs.flatMap (escape mark) = cs'.flatMap (escape mark) → cs = cs'
  | [], [], _ => rfl
  | [], c :: cs, h => by
    have hread := unescape_escape hmark c (cs.flatMap (escape mark))
    rw [← List.flatMap_cons, ← h] at hread
    cases hread
  | c :: cs, [], h => by
    have hread := unescape_escape hmark c (cs.flatMap (escape mark))
    rw [← List.flatMap_cons, h] at hread
    cases hread
  | c :: cs, c' :: cs', h => by
    have hread := unescape_escape hmark c (cs.flatMap (escape mark))
    have hread' := unescape_escape hmark c' (cs'.flatMap (escape mark))
    rw [← List.flatMap_cons] at hread hread'
    rw [← h, hread, Option.some.injEq, Prod.mk.injEq] at hread'
    obtain ⟨rfl, hrest⟩ := hread'
    rw [flatMap_escape_injective hrest]

/-- Quoted characters stay on one line, whatever they are. -/
theorem oneLine_quoteWith (chars : List Char) : OneLine (quoteWith mark chars) := by
  have hescaped : '\n' ∉ chars.flatMap (escape mark) := by
    rw [List.mem_flatMap]
    rintro ⟨c, -, hc⟩
    exact newline_not_mem_escape hmark c hc
  have hnewline : '\n' ≠ mark := by
    rintro rfl
    exact absurd hmark (by decide)
  rw [quoteWith, oneLine_ofList_iff]
  simp [hescaped, hnewline]

end Mark

/-- A text is told by its quoted form. -/
theorem quoteString_injective {s t : String} (h : quoteString s = quoteString t) : s = t := by
  have hchars := congrArg String.toList h
  simp only [quoteString, quoteWith, String.toList_ofList, List.cons.injEq, true_and,
    List.append_left_inj] at hchars
  exact String.toList_inj.mp (flatMap_escape_injective (by decide) hchars)

theorem oneLine_quoteString (s : String) : OneLine (quoteString s) :=
  oneLine_quoteWith (by decide) _

theorem oneLine_quoteChar (c : Char) : OneLine (quoteChar c) :=
  oneLine_quoteWith (by decide) _

end ClassOutline.Text
