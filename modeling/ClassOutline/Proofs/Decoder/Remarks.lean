/-
  Proofs/Decoder/Remarks.lean --- what a decoder remarks on.

  The remarks of a run that comes to an answer are read off the tree of demands:
  `Ensures` says of a decoder that each answer it can come to stands in some
  relation to the remarks it makes on the way.  It composes as the decoders do.  On
  less input a run makes the same remarks, as far as it gets.
-/
import ClassOutline.Proofs.Decoder.Accepted

set_option autoImplicit false

namespace ClassOutline.Decoder

variable {α β : Type}

/-! ## Answers and their remarks -/

/-- Whether a condition holds of each answer of a decoder and the remarks that it
makes before it, with whatever bytes its demands are met. -/
def Ensures : Decoder α → (α → List Remark → Prop) → Prop
  | .done a, P => P a []
  | .fail _, _ => True
  | .need _ next, P => ∀ bytes, (next bytes).Ensures P
  | .note r next, P => next.Ensures fun a remarks => P a (r :: remarks)

/-- Whether a decoder comes to its answers without a remark. -/
def Silent (d : Decoder α) : Prop := d.Ensures fun _ remarks => remarks = []

theorem Ensures.imp {d : Decoder α} {P Q : α → List Remark → Prop} (hd : d.Ensures P)
    (h : ∀ a remarks, P a remarks → Q a remarks) : d.Ensures Q := by
  induction d generalizing P Q with
  | done a => exact h a [] hd
  | fail e => trivial
  | note r next ih => exact ih hd fun a remarks => h a (r :: remarks)
  | need count next ih => exact fun bytes => ih bytes (hd bytes) h

theorem ensures_bind {d : Decoder α} {f : α → Decoder β} {P : β → List Remark → Prop} :
    (d.bind f).Ensures P ↔
      d.Ensures fun a remarks => (f a).Ensures fun b more => P b (remarks ++ more) := by
  induction d generalizing P with
  | done a => exact Iff.rfl
  | fail e => exact Iff.rfl
  | note r next ih => simp only [bind, Ensures, ih, List.cons_append]
  | need count next ih => simp only [bind, Ensures, ih]

/-- What a decoder ensures holds of every run that comes to an answer. -/
theorem Ensures.run {d : Decoder α} {P : α → List Remark → Prop} (hd : d.Ensures P) {a : α}
    {bytes : List UInt8} (h : (d.run bytes).result = .ok a) : P a (d.run bytes).remarks := by
  induction d generalizing P bytes with
  | done answer =>
    obtain rfl : answer = a := Except.ok.inj h
    exact hd
  | fail e => cases h
  | note r next ih =>
    rw [run_note] at h ⊢
    exact ih hd h
  | need count next ih =>
    rcases length_lt_or_exists_append count bytes with hlt | ⟨front, back, rfl, rfl⟩
    · rw [run_need_of_length_lt next hlt] at h
      cases h
    · rw [run_need_append] at h ⊢
      exact ih front (hd front) h

/-! ## Sequences -/

section Sequences

variable {f : α → Decoder β} {P : β → List Remark → Prop}

/-- A first step that is silent leaves all remarks to the second one. -/
theorem Silent.ensures_bind {d : Decoder α} (hd : d.Silent) (h : ∀ a, (f a).Ensures P) :
    (d.bind f).Ensures P := by
  rw [Decoder.ensures_bind]
  refine hd.imp ?_
  rintro a remarks rfl
  exact h a

theorem silent_word16 : word16.Silent := fun _ => rfl

theorem silent_word32 : word32.Silent := fun _ => rfl

theorem silent_word64 : word64.Silent := fun _ => rfl

theorem silent_byte : byte.Silent := fun _ => rfl

theorem silent_bytes (count : Nat) : (Decoder.bytes count).Silent := fun _ => rfl

theorem silent_done (a : α) : (Decoder.done a).Silent := rfl

/-- A look-up makes no remark; what follows may rely on what it found. -/
theorem ensures_ofExcept_bind {found : Except DecodeError α}
    (h : ∀ a, found = .ok a → (f a).Ensures P) : ((ofExcept found).bind f).Ensures P := by
  cases found with
  | ok a => exact h a rfl
  | error e => trivial

theorem silent_ofExcept (found : Except DecodeError α) : (ofExcept found).Silent := by
  cases found with
  | ok a => rfl
  | error e => trivial

theorem ensures_remark_bind {r : Remark} {f : Unit → Decoder β}
    (h : (f ()).Ensures fun b remarks => P b (r :: remarks)) : ((remark r).bind f).Ensures P := h

end Sequences

/-! ## Lists -/

section Lists

variable {item : Decoder α} {said : α → List Remark}

/-- The run lemma of `times`: the remarks on the items follow one another. -/
theorem ensures_times (h : item.Ensures fun a remarks => remarks = said a) (count : Nat)
    (before : List α) :
    (item.times count before).Ensures fun items remarks =>
      ∃ more, items = before.reverse ++ more ∧ remarks = more.flatMap said := by
  induction count generalizing before with
  | zero => exact ⟨[], by simp, rfl⟩
  | succ count ih =>
    rw [times, ensures_bind]
    refine h.imp ?_
    rintro a _ rfl
    refine (ih (a :: before)).imp ?_
    rintro _ _ ⟨more, rfl, rfl⟩
    exact ⟨a :: more, by simp, rfl⟩

/-- What is remarked on a counted list is what is remarked on its items. -/
theorem ensures_counted (h : item.Ensures fun a remarks => remarks = said a) :
    (counted item).Ensures fun items remarks => remarks = items.flatMap said := by
  refine silent_word16.ensures_bind fun count => (ensures_times h count.toNat []).imp ?_
  rintro _ _ ⟨more, rfl, rfl⟩
  rfl

theorem Silent.counted (h : item.Silent) : (counted item).Silent := by
  have hcounted : (Decoder.counted item).Ensures fun items remarks =>
      remarks = items.flatMap fun _ => [] := ensures_counted h
  refine hcounted.imp ?_
  rintro items _ rfl
  simp

end Lists

/-! ## Less input -/

/-- On the front of an input a run makes the first of the remarks that it makes on
all of it. -/
theorem isPrefix_remarks_run (d : Decoder α) {front bytes : List UInt8} (h : front <+: bytes) :
    (d.run front).remarks <+: (d.run bytes).remarks := by
  induction d generalizing front bytes with
  | done a => exact List.prefix_refl _
  | fail e => exact List.prefix_refl _
  | note r next ih =>
    rw [run_note, run_note]
    exact List.cons_prefix_cons.mpr ⟨rfl, ih h⟩
  | need count next ih =>
    rcases length_lt_or_exists_append count front with hlt | ⟨taken, more, rfl, rfl⟩
    · rw [run_need_of_length_lt next hlt]
      exact List.nil_prefix
    · obtain ⟨tail, rfl⟩ := h
      rw [List.append_assoc, run_need_append, run_need_append]
      exact ih taken (List.prefix_append more tail)

end ClassOutline.Decoder
