/-
  Proofs/Decoder/Verdict.lean --- bytes that a decoder accepts or refuses.

  A decoder refuses bytes with an error if it takes exactly these bytes and then
  fails.  Refusal is read off the tree of demands, as acceptance is, and both are
  kept together in a verdict on the bytes of a value: no error if all of them are
  accepted, or the error with which some of them are refused.  Verdicts compose:
  of a sequence of decoders, the first one that has an error decides.
-/
import ClassOutline.Proofs.Decoder.Accepted

set_option autoImplicit false

namespace ClassOutline.Decoder

variable {α β : Type}

/-! ## Refusal -/

/-- The bytes that a decoder takes, all of them and no more, before it fails. -/
def Refused : Decoder α → DecodeError → List UInt8 → Prop
  | .done _, _, _ => False
  | .fail error, e, bytes => e = error ∧ bytes = []
  | .need count next, e, bytes =>
    ∃ front back, bytes = front ++ back ∧ front.length = count ∧ (next front).Refused e back
  | .note _ next, e, bytes => next.Refused e bytes

/-- What is refused at the start of a sequence is refused by the sequence. -/
theorem Refused.bind {d : Decoder α} {e : DecodeError} {bytes : List UInt8}
    (h : d.Refused e bytes) (f : α → Decoder β) : (d.bind f).Refused e bytes := by
  induction d generalizing bytes with
  | done answer => exact h.elim
  | fail error => exact h
  | note remark next ih => exact ih h
  | need count next ih =>
    obtain ⟨front, back, rfl, hcount, hnext⟩ := h
    exact ⟨front, back, rfl, hcount, ih front hnext⟩

/-- What is refused behind an accepted start is refused by the sequence. -/
theorem Accepted.bind_refused {d : Decoder α} {a : α} {front back : List UInt8} {e : DecodeError}
    {f : α → Decoder β} (hd : d.Accepted a front) (hf : (f a).Refused e back) :
    (d.bind f).Refused e (front ++ back) := by
  induction d generalizing front with
  | done answer =>
    obtain ⟨rfl, rfl⟩ := hd
    exact hf
  | fail error => exact hd.elim
  | note remark next ih => exact ih hd
  | need count next ih =>
    obtain ⟨taken, rest, rfl, hcount, hnext⟩ := hd
    exact ⟨taken, rest ++ back, List.append_assoc _ _ _, hcount, ih taken hnext⟩

/-- Refused bytes make a run fail whatever follows them, and what follows is
left. -/
theorem run_append_of_refused {d : Decoder α} {e : DecodeError} {front : List UInt8}
    (h : d.Refused e front) (tail : List UInt8) :
    (d.run (front ++ tail)).result = .error e ∧ (d.run (front ++ tail)).rest = tail := by
  induction d generalizing front with
  | done answer => exact h.elim
  | fail error =>
    obtain ⟨rfl, rfl⟩ := h
    exact ⟨rfl, rfl⟩
  | note remark next ih =>
    rw [run_note]
    exact ih h
  | need count next ih =>
    obtain ⟨taken, back, rfl, rfl, hnext⟩ := h
    rw [List.append_assoc, run_need_append]
    exact ih taken hnext

/-! ## Verdicts -/

/-- Whether a verdict is that of a decoder on bytes: without an error it accepts
all of them, and with an error it refuses some of them at the front. -/
def Judges (d : Decoder α) (bytes : List UInt8) : (verdict : Option DecodeError) → Prop
  | none => ∃ a, d.Accepted a bytes
  | some e => ∃ front back, bytes = front ++ back ∧ d.Refused e front

theorem judges_fail (e : DecodeError) (bytes : List UInt8) :
    (Decoder.fail (α := α) e).Judges bytes (some e) :=
  ⟨[], bytes, rfl, rfl, rfl⟩

/-- A run ends as the verdict says, whatever follows. -/
theorem Judges.run_append {d : Decoder α} {bytes : List UInt8} {verdict : Option DecodeError}
    (h : d.Judges bytes verdict) (tail : List UInt8) :
    match verdict with
    | none => ∃ a, (d.run (bytes ++ tail)).result = .ok a
    | some e => (d.run (bytes ++ tail)).result = .error e := by
  cases verdict with
  | none =>
    obtain ⟨a, haccepted⟩ := h
    exact ⟨a, (run_append_of_accepted haccepted tail).1⟩
  | some e =>
    obtain ⟨front, back, rfl, hrefused⟩ := h
    rw [List.append_assoc]
    exact (run_append_of_refused hrefused (back ++ tail)).1

section Sequences

variable {d : Decoder α} {f : α → Decoder β} {front back : List UInt8}
  {verdict verdict' : Option DecodeError}

/-- Behind an accepted start, the verdict is that on the rest. -/
theorem Accepted.bind_judges {a : α} (hd : d.Accepted a front) (hf : (f a).Judges back verdict) :
    (d.bind f).Judges (front ++ back) verdict := by
  cases verdict with
  | none =>
    obtain ⟨b, hb⟩ := hf
    exact ⟨b, accepted_bind.mpr ⟨a, front, back, rfl, hd, hb⟩⟩
  | some e =>
    obtain ⟨refused, rest, rfl, hrefused⟩ := hf
    exact ⟨front ++ refused, rest, (List.append_assoc _ _ _).symm, hd.bind_refused hrefused⟩

/-- Behind an accepted end there is nothing to take. -/
theorem Accepted.bind_judges_nil {a : α} (hd : d.Accepted a front) (hf : (f a).Judges [] verdict) :
    (d.bind f).Judges front verdict := by
  have hbind := hd.bind_judges hf
  rwa [List.append_nil] at hbind

/-- The verdict on a sequence is the first of the two that has an error. -/
theorem Judges.bind (hd : d.Judges front verdict)
    (hf : ∀ a, d.Accepted a front → (f a).Judges back verdict') :
    (d.bind f).Judges (front ++ back) (verdict.or verdict') := by
  cases verdict with
  | none =>
    obtain ⟨a, ha⟩ := hd
    exact ha.bind_judges (hf a ha)
  | some e =>
    obtain ⟨refused, rest, rfl, hrefused⟩ := hd
    exact ⟨refused, rest ++ back, List.append_assoc _ _ _, hrefused.bind f⟩

/-- An answer that is only passed on does not change the verdict. -/
theorem Judges.bind_done (hd : d.Judges front verdict) (g : α → β) :
    (d.bind fun a => .done (g a)).Judges front verdict := by
  have hbind : (d.bind fun a => .done (g a)).Judges (front ++ []) (verdict.or none) :=
    hd.bind fun a _ => ⟨g a, rfl, rfl⟩
  rwa [List.append_nil, Option.or_none] at hbind

theorem judges_word16_bind {f : UInt16 → Decoder β} {w : UInt16} (h : (f w).Judges back verdict) :
    (word16.bind f).Judges (Bytes.ofWord16 w ++ back) verdict :=
  (accepted_word16.mpr rfl).bind_judges h

theorem judges_last_word16_bind {f : UInt16 → Decoder β} {w : UInt16}
    (h : (f w).Judges [] verdict) : (word16.bind f).Judges (Bytes.ofWord16 w) verdict :=
  (accepted_word16.mpr rfl).bind_judges_nil h

/-- A remark has no part in a verdict. -/
theorem judges_remark_bind {r : Remark} {f : Unit → Decoder β} (h : (f ()).Judges back verdict) :
    ((remark r).bind f).Judges back verdict := by
  have hremark : (remark r).Accepted () [] := ⟨rfl, rfl⟩
  exact hremark.bind_judges h

end Sequences

/-! ## Lists -/

section Lists

variable {item : Decoder α} {spelled : Spelling α} {verdict : α → Option DecodeError}
  {items : List α} {bytes : List UInt8}

theorem findSome?_cons_eq_or (a : α) (rest : List α) :
    (a :: rest).findSome? verdict = (verdict a).or (rest.findSome? verdict) := by
  cases h : verdict a with
  | none => simp [h]
  | some e => simp [h]

/-- The run lemma of `times`: the first item with an error decides. -/
theorem judges_times (h : ∀ a ∈ items, ∀ bytes, spelled a bytes → item.Judges bytes (verdict a))
    (hall : Spelling.all spelled items bytes) (before : List α) :
    (item.times items.length before).Judges bytes (items.findSome? verdict) := by
  induction items generalizing bytes before with
  | nil =>
    obtain rfl : bytes = [] := hall
    exact ⟨before.reverse, rfl, rfl⟩
  | cons a rest ih =>
    obtain ⟨front, back, rfl, hfront, hback⟩ := hall
    obtain ⟨ha, hrest⟩ := List.forall_mem_cons.mp h
    rw [findSome?_cons_eq_or]
    exact (ha front hfront).bind fun read _ => ih hrest hback (read :: before)

/-- On a counted list the first item with an error decides. -/
theorem judges_counted (h : ∀ a ∈ items, ∀ bytes, spelled a bytes → item.Judges bytes (verdict a))
    (hcounted : Spelling.counted spelled items bytes) :
    (counted item).Judges bytes (items.findSome? verdict) := by
  obtain ⟨hlength, body, rfl, hall⟩ := hcounted
  have hcount : (UInt16.ofNat items.length).toNat = items.length :=
    UInt16.toNat_ofNat_of_lt' hlength
  have hword : Bytes.ofNat 2 items.length = Bytes.ofWord16 (.ofNat items.length) := by
    rw [Bytes.ofWord16, hcount]
  rw [hword]
  refine judges_word16_bind ?_
  rw [hcount]
  exact judges_times h hall []

/-- The same where every item has just one spelling. -/
theorem judges_counted_flatMap {spell : α → List UInt8} (hlength : items.length < 0x10000)
    (h : ∀ a ∈ items, item.Judges (spell a) (verdict a)) :
    (counted item).Judges (Bytes.ofNat 2 items.length ++ items.flatMap spell)
      (items.findSome? verdict) := by
  refine judges_counted ?_ (Spelling.counted_eq_flatMap.mpr ⟨hlength, rfl⟩)
  rintro a ha _ rfl
  exact h a ha

end Lists

end ClassOutline.Decoder
