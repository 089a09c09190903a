/-
  Proofs/Decoder/Run.lean --- a run on a list of bytes, one demand at a time.

  The equations of `run`: with them no proof about runs has to follow the supply
  or the remarks that were made before.
-/
import ClassOutline.Decoder.Basic

set_option autoImplicit false

namespace ClassOutline.Decoder

variable {α : Type}

/-! ## The supply -/

/-- A list that opens with the bytes asked for gives them. -/
theorem takeBytes_append {front : List UInt8} (back : List UInt8) :
    takeBytes front.length (front ++ back) = (.ok front, back) := by
  simp [takeBytes]

/-- A list with too few bytes gives none and is used up. -/
theorem takeBytes_of_length_lt {count : Nat} {bytes : List UInt8} (h : bytes.length < count) :
    takeBytes count bytes = (.error .truncated, []) := by
  have hshort : ¬ (bytes.take count).length = count := by
    rw [List.length_take]
    omega
  simp only [takeBytes, if_neg hshort]

/-- There are too few bytes, or as many as are asked for stand in front. -/
theorem length_lt_or_exists_append (count : Nat) (bytes : List UInt8) :
    bytes.length < count ∨ ∃ front back, bytes = front ++ back ∧ front.length = count := by
  by_cases h : bytes.length < count
  · exact .inl h
  · refine .inr ⟨bytes.take count, bytes.drop count, (List.take_append_drop count bytes).symm, ?_⟩
    rw [List.length_take]
    omega

/-! ## The remarks -/

/-- What was remarked before has no part in a run. -/
theorem drive_eq_drive_nil {σ : Type} (supply : Supply σ) (d : Decoder α) (s : σ)
    (remarks : List Remark) :
    d.drive supply s remarks =
      { d.drive supply s [] with
        remarks := remarks.reverse ++ (d.drive supply s []).remarks } := by
  induction d generalizing s remarks with
  | done a => simp [drive]
  | fail e => simp [drive]
  | note r next ih =>
    rw [drive, drive, ih s (r :: remarks), ih s [r]]
    simp
  | need count next ih =>
    rw [drive, drive]
    rcases supply count s with ⟨found, s'⟩
    cases found with
    | error e => simp
    | ok bytes => exact ih bytes s' remarks

/-! ## Supplies that look alike -/

/-- What is seen of an outcome where only some of the state of the supply is. -/
def Outcome.seen {σ τ : Type} (view : σ → τ) (outcome : Outcome σ α) : Outcome τ α :=
  ⟨outcome.remarks, outcome.result, view outcome.rest⟩

/-- If the answers of a supply depend on what is seen of its state alone, a run
depends on no more of it. -/
theorem seen_drive {σ τ : Type} {supply : Supply σ} {supply' : Supply τ} {view : σ → τ}
    (h : ∀ count s, supply' count (view s) = ((supply count s).1, view (supply count s).2))
    (d : Decoder α) (s : σ) (remarks : List Remark) :
    (d.drive supply s remarks).seen view = d.drive supply' (view s) remarks := by
  induction d generalizing s remarks with
  | done a => rfl
  | fail e => rfl
  | note r next ih => exact ih s (r :: remarks)
  | need count next ih =>
    rw [drive, drive, h]
    rcases supply count s with ⟨found, s'⟩
    cases found with
    | error e => rfl
    | ok bytes => exact ih bytes s' remarks

/-! ## The equations -/

theorem run_note (r : Remark) (next : Decoder α) (bytes : List UInt8) :
    (Decoder.note r next).run bytes =
      { next.run bytes with remarks := r :: (next.run bytes).remarks } :=
  drive_eq_drive_nil takeBytes next bytes [r]

theorem run_need_append (next : List UInt8 → Decoder α) (front back : List UInt8) :
    (Decoder.need front.length next).run (front ++ back) = (next front).run back := by
  rw [run, drive, takeBytes_append]
  rfl

theorem run_need_of_length_lt {count : Nat} (next : List UInt8 → Decoder α) {bytes : List UInt8}
    (h : bytes.length < count) :
    (Decoder.need count next).run bytes = ⟨[], .error .truncated, []⟩ := by
  rw [run, drive, takeBytes_of_length_lt h]
  rfl

end ClassOutline.Decoder
