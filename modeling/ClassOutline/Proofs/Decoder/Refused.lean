/-
  Proofs/Decoder/Refused.lean --- which bytes a decoder refuses with which error.

  A run that fails, for another reason than that the input ends, has refused the
  bytes at the front of its input, and what is refused can be read off the tree of
  demands as what is accepted can.  A sequence of decoders refuses what the first
  refuses, or what the others refuse behind what the first accepts; a counted list
  refuses what its item refuses behind fewer accepted items than are counted.
-/
import ClassOutline.Proofs.Decoder.Verdict

set_option autoImplicit false

namespace ClassOutline.Decoder

variable {α β : Type} {d : Decoder α} {f : α → Decoder β} {e : DecodeError} {bytes : List UInt8}

/-! ## Runs -/

/-- A run that fails before its input ends has refused what it took. -/
theorem refused_of_run (h : (d.run bytes).result = .error e) (hend : e ≠ .truncated) :
    ∃ front, bytes = front ++ (d.run bytes).rest ∧ d.Refused e front := by
  induction d generalizing bytes with
  | done answer => cases h
  | fail error =>
    obtain rfl := Except.error.inj h
    exact ⟨[], rfl, rfl, rfl⟩
  | note remark next ih =>
    rw [run_note] at h ⊢
    exact ih h
  | need count next ih =>
    rcases length_lt_or_exists_append count bytes with hlt | ⟨front, back, rfl, rfl⟩
    · rw [run_need_of_length_lt next hlt] at h
      exact absurd (Except.error.inj h).symm hend
    · rw [run_need_append] at h ⊢
      obtain ⟨more, hback, hrefused⟩ := ih front h
      refine ⟨front ++ more, ?_, front, more, rfl, rfl, hrefused⟩
      rw [List.append_assoc, ← hback]

theorem result_run_eq_error_iff (hend : e ≠ .truncated) :
    (d.run bytes).result = .error e ↔ ∃ front rest, bytes = front ++ rest ∧ d.Refused e front := by
  constructor
  · intro h
    obtain ⟨front, hbytes, hrefused⟩ := refused_of_run h hend
    exact ⟨front, _, hbytes, hrefused⟩
  · intro h
    obtain ⟨front, rest, rfl, hrefused⟩ := h
    exact (run_append_of_refused hrefused rest).1

/-! ## Sequences -/

theorem refused_bind :
    (d.bind f).Refused e bytes ↔
      d.Refused e bytes ∨
        ∃ a front back, bytes = front ++ back ∧ d.Accepted a front ∧ (f a).Refused e back := by
  constructor
  · intro h
    induction d generalizing bytes with
    | done answer => exact .inr ⟨answer, [], bytes, rfl, ⟨rfl, rfl⟩, h⟩
    | fail error => exact .inl h
    | note remark next ih => exact ih h
    | need count next ih =>
      obtain ⟨taken, rest, rfl, hcount, hrest⟩ := h
      rcases ih taken hrest with hfirst | ⟨a, front, back, rfl, haccepted, hrefused⟩
      · exact .inl ⟨taken, rest, rfl, hcount, hfirst⟩
      · refine .inr ⟨a, taken ++ front, back, ?_, ⟨taken, front, rfl, hcount, haccepted⟩, hrefused⟩
        rw [List.append_assoc]
  · intro h
    rcases h with hfirst | ⟨a, front, back, rfl, haccepted, hrefused⟩
    · exact hfirst.bind f
    · exact haccepted.bind_refused hrefused

/-- An answer that is only passed on is never refused. -/
theorem refused_bind_done {g : α → β} :
    (d.bind fun a => .done (g a)).Refused e bytes ↔ d.Refused e bytes := by
  rw [refused_bind]
  constructor
  · intro h
    rcases h with hfirst | ⟨a, front, back, -, -, hdone⟩
    · exact hfirst
    · exact hdone.elim
  · intro h
    exact .inl h

/-- Behind a first step that never fails with an error, whose answers have to be good
and have one spelling each. -/
theorem refused_bind_of_good {write : α → List UInt8} {Good : α → Prop}
    (haccepted : ∀ {a bytes}, d.Accepted a bytes ↔ bytes = write a ∧ Good a)
    (hnot : ∀ bytes, ¬ d.Refused e bytes) :
    (d.bind f).Refused e bytes ↔
      ∃ a back, bytes = write a ++ back ∧ Good a ∧ (f a).Refused e back := by
  rw [refused_bind]
  constructor
  · intro h
    rcases h with hfirst | ⟨a, front, back, rfl, hfront, hrefused⟩
    · exact absurd hfirst (hnot bytes)
    · obtain ⟨rfl, hgood⟩ := haccepted.mp hfront
      exact ⟨a, back, rfl, hgood, hrefused⟩
  · intro h
    obtain ⟨a, back, rfl, hgood, hrefused⟩ := h
    exact .inr ⟨a, write a, back, rfl, haccepted.mpr ⟨rfl, hgood⟩, hrefused⟩

/-- A demand alone fails with nothing. -/
theorem not_refused_need_done {count : Nat} {read : List UInt8 → α} :
    ¬ (Decoder.need count fun taken => .done (read taken)).Refused e bytes := by
  intro h
  obtain ⟨_, _, -, -, hdone⟩ := h
  exact hdone

theorem refused_byte_bind {f : UInt8 → Decoder β} :
    (byte.bind f).Refused e bytes ↔ ∃ b back, bytes = b :: back ∧ (f b).Refused e back := by
  have hgood := @refused_bind_of_good UInt8 β byte f e bytes (fun b => [b]) (fun _ => True)
  simp only [and_true, true_and] at hgood
  exact hgood accepted_byte fun _ => not_refused_need_done

theorem refused_word16_bind {f : UInt16 → Decoder β} :
    (word16.bind f).Refused e bytes ↔
      ∃ w back, bytes = Bytes.ofWord16 w ++ back ∧ (f w).Refused e back := by
  have hgood := @refused_bind_of_good UInt16 β word16 f e bytes Bytes.ofWord16 (fun _ => True)
  simp only [and_true, true_and] at hgood
  exact hgood accepted_word16 fun _ => not_refused_need_done

theorem refused_ofExcept_bind {found : Except DecodeError α} :
    ((ofExcept found).bind f).Refused e bytes ↔
      found = .error e ∧ bytes = [] ∨ ∃ a, found = .ok a ∧ (f a).Refused e bytes := by
  cases found with
  | ok a => simp [ofExcept, bind]
  | error e' => simp [ofExcept, bind, Refused, eq_comm]

/-! ## Lists -/

section Lists

variable {item : Decoder α} {spelled : Spelling α} {Good : α → Prop}

/-- The run lemma of `times`: the item that is refused stands behind fewer accepted
ones than are asked for. -/
theorem refused_times (h : ∀ {a bytes}, item.Accepted a bytes ↔ spelled a bytes ∧ Good a)
    {count : Nat} {before : List α} :
    (item.times count before).Refused e bytes ↔
      ∃ items front back, bytes = front ++ back ∧ items.length < count ∧
        Spelling.all spelled items front ∧ (∀ a ∈ items, Good a) ∧ item.Refused e back := by
  induction count generalizing before bytes with
  | zero =>
    constructor
    · intro hdone
      exact hdone.elim
    · intro hitems
      obtain ⟨items, _, _, -, hlength, -⟩ := hitems
      exact absurd hlength (Nat.not_lt_zero _)
  | succ count ih =>
    rw [times, refused_bind]
    constructor
    · intro hrefused
      rcases hrefused with hfirst | ⟨a, front, back, rfl, ha, hrest⟩
      · exact ⟨[], [], bytes, rfl, Nat.succ_pos count, rfl, by simp, hfirst⟩
      · obtain ⟨hspelled, hgood⟩ := h.mp ha
        obtain ⟨items, more, last, rfl, hlength, hall, hitems, hlast⟩ := ih.mp hrest
        refine ⟨a :: items, front ++ more, last, ?_, Nat.succ_lt_succ hlength,
          ⟨front, more, rfl, hspelled, hall⟩, List.forall_mem_cons.mpr ⟨hgood, hitems⟩, hlast⟩
        rw [List.append_assoc]
    · intro hitems
      obtain ⟨items, front, back, rfl, hlength, hall, hgood, hlast⟩ := hitems
      cases items with
      | nil =>
        obtain rfl : front = [] := hall
        exact .inl hlast
      | cons a items =>
        obtain ⟨first, more, rfl, hspelled, hall⟩ := hall
        obtain ⟨ha, hitems⟩ := List.forall_mem_cons.mp hgood
        refine .inr ⟨a, first, more ++ back, ?_, h.mpr ⟨hspelled, ha⟩, ?_⟩
        · rw [List.append_assoc]
        · exact ih.mpr ⟨items, more, back, rfl, Nat.lt_of_succ_lt_succ hlength, hall, hitems, hlast⟩

/-- On a counted list whose items have one spelling each. -/
theorem refused_counted {spell : α → List UInt8}
    (h : ∀ {a bytes}, item.Accepted a bytes ↔ bytes = spell a ∧ Good a) :
    (counted item).Refused e bytes ↔
      ∃ (count : UInt16) (items : List α) (back : List UInt8),
        bytes = Bytes.ofWord16 count ++ (items.flatMap spell ++ back) ∧
          items.length < count.toNat ∧ (∀ a ∈ items, Good a) ∧ item.Refused e back := by
  rw [counted, refused_word16_bind]
  simp only [refused_times h, Spelling.all_eq_flatMap]
  constructor
  · intro hrefused
    obtain ⟨count, _, rfl, items, _, back, rfl, hlength, rfl, hgood, hlast⟩ := hrefused
    exact ⟨count, items, back, rfl, hlength, hgood, hlast⟩
  · intro hitems
    obtain ⟨count, items, back, rfl, hlength, hgood, hlast⟩ := hitems
    exact ⟨count, _, rfl, items, _, back, rfl, hlength, rfl, hgood, hlast⟩

end Lists

end ClassOutline.Decoder
