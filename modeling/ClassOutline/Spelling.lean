/-
  Spelling.lean --- which bytes spell a value.

  A spelling relates values to lists of bytes, and need not be a function: a word
  with meaningless bits and a text with several encodings have more than one
  spelling.  Nothing here mentions a decoder.
-/
import ClassOutline.Bytes

set_option autoImplicit false

namespace ClassOutline

/-- Which lists of bytes spell a value. -/
abbrev Spelling (α : Type) : Type := α → List UInt8 → Prop

namespace Spelling

variable {α : Type}

/-- The spellings of a list: spellings of its items, one after the other. -/
def all (item : Spelling α) : Spelling (List α)
  | [], bytes => bytes = []
  | a :: rest, bytes => ∃ front back, bytes = front ++ back ∧ item a front ∧ all item rest back

/-- The spellings of a list behind its length, which has 16 bits. -/
def counted (item : Spelling α) : Spelling (List α) := fun items bytes =>
  items.length < 0x10000 ∧
    ∃ body, bytes = Bytes.ofNat 2 items.length ++ body ∧ all item items body

/-! ## Items with one spelling -/

/-- Where every item has just one spelling, so has a list of them. -/
theorem all_eq_flatMap {spell : α → List UInt8} {items : List α} {bytes : List UInt8} :
    all (fun a b => b = spell a) items bytes ↔ bytes = items.flatMap spell := by
  induction items generalizing bytes with
  | nil => simp [all]
  | cons x rest ih => simp [all, ih]

theorem counted_eq_flatMap {spell : α → List UInt8} {items : List α} {bytes : List UInt8} :
    counted (fun a b => b = spell a) items bytes ↔
      items.length < 0x10000 ∧ bytes = Bytes.ofNat 2 items.length ++ items.flatMap spell := by
  simp [counted, all_eq_flatMap]

/-! ## Items with a choice of spellings -/

/-- A choice for each position of a list, from one for its head and one for each
position of its tail. -/
def consChoice {ρ : Type} (first : ρ) (choice : Nat → ρ) : Nat → ρ
  | 0 => first
  | i + 1 => choice i

/-- Where an item is spelled by way of a choice, a list of items is spelled by
way of one choice for each position. -/
theorem all_iff_exists_choice {ρ : Type} [Inhabited ρ] (spell : ρ → α → List UInt8)
    (Allowed : ρ → α → Prop) {items : List α} {bytes : List UInt8} :
    all (fun a b => ∃ r, Allowed r a ∧ b = spell r a) items bytes ↔
      ∃ choice : Nat → ρ, (∀ i a, items[i]? = some a → Allowed (choice i) a) ∧
        bytes = (items.mapIdx fun i a => spell (choice i) a).flatten := by
  induction items generalizing bytes with
  | nil => simp [all]
  | cons x rest ih =>
    simp only [all, ih]
    constructor
    · rintro ⟨_, _, rfl, ⟨r, hr, rfl⟩, choice, hchoice, rfl⟩
      refine ⟨consChoice r choice, ?_, by simp [consChoice]⟩
      intro i a hi
      cases i with
      | zero =>
        obtain rfl : x = a := by simpa using hi
        exact hr
      | succ i => exact hchoice i a (by simpa using hi)
    · rintro ⟨choice, hchoice, rfl⟩
      refine ⟨_, _, by simp, ⟨choice 0, hchoice 0 x rfl, rfl⟩, fun i => choice (i + 1), ?_, rfl⟩
      intro i a hi
      exact hchoice (i + 1) a (by simpa using hi)

theorem counted_iff_exists_choice {ρ : Type} [Inhabited ρ] (spell : ρ → α → List UInt8)
    {items : List α} {bytes : List UInt8} :
    counted (fun a b => ∃ r, b = spell r a) items bytes ↔
      items.length < 0x10000 ∧ ∃ choice : Nat → ρ,
        bytes = Bytes.ofNat 2 items.length ++
          (items.mapIdx fun i a => spell (choice i) a).flatten := by
  have hall := @all_iff_exists_choice α ρ _ spell (fun _ _ => True) items
  simp only [true_and, implies_true] at hall
  simp only [counted, hall]
  constructor
  · rintro ⟨hlength, _, rfl, choice, rfl⟩
    exact ⟨hlength, choice, rfl⟩
  · rintro ⟨hlength, choice, rfl⟩
    exact ⟨hlength, _, rfl, choice, rfl⟩

end Spelling

end ClassOutline
