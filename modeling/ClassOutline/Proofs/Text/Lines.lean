/-
  Proofs/Text/Lines.lean --- texts on one line, and the lines of a text.

  The lines of a text are what stands between its newlines, so a text whose last
  character is a newline has an empty last line.  Texts that are put together from texts
  on one line have these as their lines.
-/
import ClassOutline.Decimal.Positional

set_option autoImplicit false

namespace ClassOutline

/-! ## One line -/

namespace Text

/-- Whether a text has no newline. -/
def OneLine (s : String) : Prop := '\n' ∉ s.toList

instance (s : String) : Decidable (OneLine s) := inferInstanceAs (Decidable (¬ _))

variable {s t mark : String} {texts : List String} {chars : List Char}

theorem oneLine_append_iff : OneLine (s ++ t) ↔ OneLine s ∧ OneLine t := by
  simp [OneLine, String.toList_append]

theorem OneLine.append (hs : OneLine s) (ht : OneLine t) : OneLine (s ++ t) :=
  oneLine_append_iff.mpr ⟨hs, ht⟩

theorem oneLine_ofList_iff : OneLine (String.ofList chars) ↔ '\n' ∉ chars := by
  rw [OneLine, String.toList_ofList]

theorem oneLine_intercalate (hmark : OneLine mark) (h : ∀ t ∈ texts, OneLine t) :
    OneLine (mark.intercalate texts) := by
  induction texts with
  | nil => simp [OneLine]
  | cons t rest ih =>
    have ht : OneLine t := h t List.mem_cons_self
    have hrest : OneLine (mark.intercalate rest) :=
      ih fun t' ht' => h t' (List.mem_cons_of_mem _ ht')
    rw [OneLine, String.toList_intercalate] at hrest ⊢
    cases rest with
    | nil => rwa [List.map_singleton, List.intercalate_singleton]
    | cons t' rest =>
      rw [List.map_cons, List.intercalate_cons_of_ne_nil (by simp)]
      simp only [List.mem_append, not_or]
      exact ⟨⟨ht, hmark⟩, hrest⟩

/-! ## Lines -/

/-- The lines of a text. -/
def lines (s : String) : List String := (s.toList.splitOn '\n').map String.ofList

theorem lines_append_newline (hs : OneLine s) (t : String) :
    lines (s ++ "\n" ++ t) = s :: lines t := by
  have hchars : (s ++ "\n" ++ t).toList = s.toList ++ '\n' :: t.toList := by
    simp [String.toList_append]
  rw [lines, hchars, List.splitOn_append_cons_self_of_not_mem hs, List.map_cons,
    String.ofList_toList, lines]

/-- Texts on one line each, with newlines between them, are the lines of the whole. -/
theorem lines_intercalate (h : ∀ t ∈ texts, OneLine t) (hne : texts ≠ []) :
    lines ("\n".intercalate texts) = texts := by
  have hmark : "\n".toList = ['\n'] := rfl
  have hpieces : ∀ piece ∈ texts.map String.toList, '\n' ∉ piece := by
    intro piece hpiece
    obtain ⟨t, ht, rfl⟩ := List.mem_map.mp hpiece
    exact h t ht
  rw [lines, String.toList_intercalate, hmark, List.splitOn_intercalate '\n' hpieces (by simpa)]
  simp

/-- Texts on one line each, with a newline behind every one, are the lines before the
empty last one. -/
theorem lines_join (h : ∀ t ∈ texts, OneLine t) :
    lines (String.join (texts.map (· ++ "\n"))) = texts ++ [""] := by
  induction texts with
  | nil => rfl
  | cons t rest ih =>
    have ht : OneLine t := h t List.mem_cons_self
    rw [List.map_cons, String.join_cons, lines_append_newline ht,
      ih fun t' ht' => h t' (List.mem_cons_of_mem _ ht')]
    rfl

/-! ## Numbers -/

/-- Only digits are among the decimal digits of a number. -/
theorem not_mem_decimal {c : Char} (hc : c.isDigit = false) (n : Nat) :
    c ∉ Nat.toDigits 10 n := by
  intro hmem
  have hdigit := Nat.isDigit_of_mem_toDigits (by decide) (by decide) hmem
  rw [hc] at hdigit
  cases hdigit

theorem oneLine_natText (n : Nat) : OneLine (toString n) := by
  rw [Nat.toString_eq_ofList_toDigits, oneLine_ofList_iff]
  exact not_mem_decimal rfl n

theorem oneLine_intText (n : Int) : OneLine (toString n) := by
  cases n with
  | ofNat m => exact oneLine_natText m
  | negSucc m =>
    have hminus : OneLine "-" := by decide
    exact hminus.append (oneLine_natText (m + 1))

end Text

namespace Decimal

open Text

theorem mem_of_mem_trimFraction {c : Char} {digits : List Char} (h : c ∈ trimFraction digits) :
    c ∈ digits := by
  rw [trimFraction, List.mem_reverse] at h
  exact List.mem_reverse.mp ((List.dropWhile_suffix _).subset h)

theorem oneLine_positional (d : Numeral) : OneLine d.positional := by
  have hdigits : '\n' ∉ Nat.toDigits 10 d.digits := not_mem_decimal rfl d.digits
  have hzeros : ∀ n, '\n' ∉ List.replicate n '0' := by
    intro n h
    exact absurd (List.eq_of_mem_replicate h) (by decide)
  have hpadded : ∀ n, '\n' ∉ List.replicate n '0' ++ Nat.toDigits 10 d.digits := by
    intro n
    rw [List.mem_append, not_or]
    exact ⟨hzeros n, hdigits⟩
  simp only [Numeral.positional]
  split
  · rw [oneLine_ofList_iff, List.mem_append, not_or]
    exact ⟨hdigits, hzeros _⟩
  · split
    · rw [oneLine_ofList_iff]
      exact fun h => hpadded _ (List.mem_of_mem_take h)
    · rw [oneLine_ofList_iff, List.mem_append, List.mem_cons, not_or, not_or]
      refine ⟨fun h => hpadded _ (List.mem_of_mem_take h), by decide, fun h => ?_⟩
      exact hpadded _ (List.mem_of_mem_drop (mem_of_mem_trimFraction h))

theorem oneLine_text (value : Value) : OneLine value.text := by
  have hsign : ∀ negative, OneLine (sign negative) := by
    decide
  cases value with
  | notANumber => decide
  | infinite negative => exact (hsign negative).append (by decide)
  | zero negative => exact (hsign negative).append (by decide)
  | finite negative magnitude => exact (hsign negative).append (oneLine_positional _)

theorem oneLine_textOfSingle (bits : UInt32) : OneLine (textOfSingle bits) := oneLine_text _

theorem oneLine_textOfDouble (bits : UInt64) : OneLine (textOfDouble bits) := oneLine_text _

end Decimal

end ClassOutline
