/-
  Proofs/Text/Malformed.lean --- malformed bytes damage nothing but themselves.

  A byte that continues no sequence is read in its own right wherever it stands,
  and so is every byte behind the end of a complete sequence.  There an input can
  be cut in two, and each part yields what it yields alone.  A malformed piece of
  an input is a sequence that is cut short, a continuation byte outside a sequence,
  or a byte that opens none; it yields U+FFFD once, and the bytes before it and behind
  it yield what they yield alone.
-/
import ClassOutline.Proofs.Text.ModifiedUtf8

set_option autoImplicit false

namespace ClassOutline.Text.ModifiedUtf8

/-! ## Sequences -/

/-- Whether a byte opens a sequence of two bytes. -/
def isLeadTwo (b : UInt8) : Bool := 0xC0 ≤ b && b < 0xE0

/-- Whether a byte opens a sequence of three bytes. -/
def isLeadThree (b : UInt8) : Bool := 0xE0 ≤ b && b < 0xF0

/-- The complete sequences: a lead byte, if there is one, with all of its
continuation bytes. -/
inductive Sequence : List UInt8 → Prop
  | one {b : UInt8} (hb : b < 0x80) : Sequence [b]
  | two {lead c : UInt8} (hlead : isLeadTwo lead = true) (hc : isContinuation c = true) :
      Sequence [lead, c]
  | three {lead c d : UInt8} (hlead : isLeadThree lead = true) (hc : isContinuation c = true)
      (hd : isContinuation d = true) : Sequence [lead, c, d]

/-- The sequences that lack a continuation byte or two. -/
inductive CutShort : List UInt8 → Prop
  | two {lead : UInt8} (hlead : isLeadTwo lead = true) : CutShort [lead]
  | three {lead : UInt8} (hlead : isLeadThree lead = true) : CutShort [lead]
  | threeLate {lead c : UInt8} (hlead : isLeadThree lead = true) (hc : isContinuation c = true) :
      CutShort [lead, c]

/-- Whether no sequence is open at the end of an input. -/
def Closed (bytes : List UInt8) : Prop := ∀ front cut, CutShort cut → bytes ≠ front ++ cut

/-- Whether an input is empty or opens with a byte that continues no sequence. -/
def StartsAnew (bytes : List UInt8) : Prop := ∀ b, bytes.head? = some b → isContinuation b = false

/-! ## Bytes -/

section Bytes

variable {b : UInt8}

theorem isContinuation_iff : isContinuation b = true ↔ 0x80 ≤ b.toNat ∧ b.toNat < 0xC0 := by
  simp [isContinuation, UInt8.le_iff_toNat_le, UInt8.lt_iff_toNat_lt]

theorem isLeadTwo_iff : isLeadTwo b = true ↔ 0xC0 ≤ b.toNat ∧ b.toNat < 0xE0 := by
  simp [isLeadTwo, UInt8.le_iff_toNat_le, UInt8.lt_iff_toNat_lt]

theorem isLeadThree_iff : isLeadThree b = true ↔ 0xE0 ≤ b.toNat ∧ b.toNat < 0xF0 := by
  simp [isLeadThree, UInt8.le_iff_toNat_le, UInt8.lt_iff_toNat_lt]

theorem not_isContinuation (h : b.toNat < 0x80 ∨ 0xC0 ≤ b.toNat) : isContinuation b = false := by
  rw [Bool.eq_false_iff, ne_eq, isContinuation_iff]
  omega

/-- What a byte does where no sequence is open, by its number. -/
theorem begin_eq (b : UInt8) :
    begin b =
      if b.toNat < 0x80 then ([b.toUInt16], .nothing)
      else if b.toNat < 0xC0 then ([replacement], .nothing)
      else if b.toNat < 0xE0 then ([], .one (b &&& 0x1F).toUInt16)
      else if b.toNat < 0xF0 then ([], .two (b &&& 0x0F).toUInt16)
      else ([replacement], .nothing) := by
  unfold begin
  simp only [UInt8.lt_iff_toNat_lt, UInt8.reduceToNat]

theorem begin_of_isLeadTwo (h : isLeadTwo b = true) :
    begin b = ([], .one (b &&& 0x1F).toUInt16) := by
  rw [isLeadTwo_iff] at h
  rw [begin_eq, if_neg (by omega), if_neg (by omega), if_pos h.2]

theorem begin_of_isLeadThree (h : isLeadThree b = true) :
    begin b = ([], .two (b &&& 0x0F).toUInt16) := by
  rw [isLeadThree_iff] at h
  rw [begin_eq, if_neg (by omega), if_neg (by omega), if_neg (by omega), if_pos h.2]

/-- A continuation byte and a byte from F0 on yield U+FFFD where no sequence is
open. -/
theorem begin_of_stray (h : isContinuation b = true ∨ 0xF0 ≤ b.toNat) :
    begin b = ([replacement], .nothing) := by
  rw [isContinuation_iff] at h
  rw [begin_eq, if_neg (by omega)]
  rcases h with hcontinuation | hbeyond
  · rw [if_pos hcontinuation.2]
  · rw [if_neg (by omega), if_neg (by omega), if_neg (by omega)]

/-- A byte that continues no sequence ends the one that is open and begins anew. -/
theorem step_of_not_isContinuation (h : isContinuation b = false) (pending : Pending) :
    step pending b = (pending.atEnd ++ (begin b).1, (begin b).2) := by
  cases pending with
  | nothing => rfl
  | one bits =>
    rw [step, h, if_neg Bool.false_ne_true, giveUp, Pending.atEnd, List.singleton_append]
  | two bits =>
    rw [step, h, if_neg Bool.false_ne_true, giveUp, Pending.atEnd, List.singleton_append]

theorem step_of_lt (h : b < 0x80) (pending : Pending) :
    step pending b = (pending.atEnd ++ [b.toUInt16], .nothing) := by
  have hbyte : b.toNat < 0x80 := UInt8.lt_iff_toNat_lt.mp h
  rw [step_of_not_isContinuation (not_isContinuation (.inl hbyte)), begin, if_pos h]

theorem step_of_isLeadTwo (h : isLeadTwo b = true) (pending : Pending) :
    step pending b = (pending.atEnd, .one (b &&& 0x1F).toUInt16) := by
  have hnumber := isLeadTwo_iff.mp h
  rw [step_of_not_isContinuation (not_isContinuation (.inr hnumber.1)), begin_of_isLeadTwo h,
    List.append_nil]

theorem step_of_isLeadThree (h : isLeadThree b = true) (pending : Pending) :
    step pending b = (pending.atEnd, .two (b &&& 0x0F).toUInt16) := by
  have hnumber := isLeadThree_iff.mp h
  rw [step_of_not_isContinuation (not_isContinuation (.inr (by omega))), begin_of_isLeadThree h,
    List.append_nil]

theorem step_one_of_isContinuation (h : isContinuation b = true) (bits : UInt16) :
    step (.one bits) b = ([extend bits b], .nothing) := by
  rw [step, if_pos h]

theorem step_two_of_isContinuation (h : isContinuation b = true) (bits : UInt16) :
    step (.two bits) b = ([], .one (extend bits b)) := by
  rw [step, if_pos h]

end Bytes

/-! ## What is pending

A sequence is pending behind an input just if the input ends in one that is cut
short. -/

/-- The open sequence at the end of an input, if one is pending behind it. -/
def Pending.EndsInput (bytes : List UInt8) : Pending → Prop
  | .nothing => True
  | .one _ => ∃ front cut, bytes = front ++ cut ∧ CutShort cut
  | .two _ => ∃ front lead, bytes = front ++ [lead] ∧ isLeadThree lead = true

theorem endsInput_begin (front : List UInt8) (b : UInt8) :
    (begin b).2.EndsInput (front ++ [b]) := by
  rw [begin_eq]
  split
  · trivial
  split
  · trivial
  split
  · have hlead : isLeadTwo b = true := by
      rw [isLeadTwo_iff]
      omega
    exact ⟨front, [b], rfl, .two hlead⟩
  split
  · have hlead : isLeadThree b = true := by
      rw [isLeadThree_iff]
      omega
    exact ⟨front, b, rfl, hlead⟩
  · trivial

/-- What is pending is at the end of the input after one more byte. -/
theorem endsInput_step {front : List UInt8} {pending : Pending} (h : pending.EndsInput front)
    (b : UInt8) : (step pending b).2.EndsInput (front ++ [b]) := by
  cases hb : isContinuation b with
  | false =>
    rw [step_of_not_isContinuation hb]
    exact endsInput_begin front b
  | true =>
    cases pending with
    | nothing => exact endsInput_begin front b
    | one bits =>
      rw [step_one_of_isContinuation hb]
      trivial
    | two bits =>
      obtain ⟨before, lead, rfl, hlead⟩ := h
      rw [step_two_of_isContinuation hb, List.append_assoc]
      exact ⟨before, [lead, b], rfl, .threeLate hlead hb⟩

/-- What is pending is at the end of the input after a whole run. -/
theorem endsInput_after {front : List UInt8} {pending : Pending} (h : pending.EndsInput front)
    (bytes : List UInt8) : (unitReader.after pending bytes).EndsInput (front ++ bytes) := by
  induction bytes generalizing front pending with
  | nil =>
    rw [List.append_nil]
    exact h
  | cons b rest ih =>
    have hrest := ih (endsInput_step h b)
    rw [List.append_assoc, List.singleton_append] at hrest
    exact hrest

theorem unitReader_step : unitReader.step = step := rfl

/-- A sequence that is cut short leaves something pending, whatever was pending
before it. -/
theorem after_ne_nothing_of_cutShort {cut : List UInt8} (h : CutShort cut) (pending : Pending) :
    unitReader.after pending cut ≠ .nothing := by
  intro hnothing
  cases h with
  | two hlead =>
    rw [Transducer.after, unitReader_step, step_of_isLeadTwo hlead, Transducer.after] at hnothing
    cases hnothing
  | three hlead =>
    rw [Transducer.after, unitReader_step, step_of_isLeadThree hlead, Transducer.after] at hnothing
    cases hnothing
  | threeLate hlead hc =>
    rw [Transducer.after, Transducer.after, unitReader_step, step_of_isLeadThree hlead,
      step_two_of_isContinuation hc, Transducer.after] at hnothing
    cases hnothing

/-- A complete sequence leaves nothing pending, whatever was pending before it. -/
theorem after_of_sequence {sequence : List UInt8} (h : Sequence sequence) (pending : Pending) :
    unitReader.after pending sequence = .nothing := by
  cases h with
  | one hb => rw [Transducer.after, unitReader_step, step_of_lt hb, Transducer.after]
  | two hlead hc =>
    rw [Transducer.after, Transducer.after, unitReader_step, step_of_isLeadTwo hlead,
      step_one_of_isContinuation hc, Transducer.after]
  | three hlead hc hd =>
    rw [Transducer.after, Transducer.after, Transducer.after, unitReader_step,
      step_of_isLeadThree hlead, step_two_of_isContinuation hc, step_one_of_isContinuation hd,
      Transducer.after]

/-- Nothing is pending just where no sequence is open. -/
theorem after_eq_nothing_iff {bytes : List UInt8} :
    unitReader.after .nothing bytes = .nothing ↔ Closed bytes := by
  constructor
  · intro hnothing front cut hcut heq
    rw [heq, Transducer.after_append] at hnothing
    exact after_ne_nothing_of_cutShort hcut _ hnothing
  · intro hclosed
    have hends : (unitReader.after .nothing bytes).EndsInput ([] ++ bytes) :=
      @endsInput_after [] .nothing trivial bytes
    rw [List.nil_append] at hends
    cases hpending : unitReader.after .nothing bytes with
    | nothing => rfl
    | one bits =>
      rw [hpending] at hends
      obtain ⟨front, cut, heq, hcut⟩ := hends
      exact absurd heq (hclosed front cut hcut)
    | two bits =>
      rw [hpending] at hends
      obtain ⟨front, lead, heq, hlead⟩ := hends
      exact absurd heq (hclosed front [lead] (.three hlead))

/-- No sequence is open behind a complete one. -/
theorem closed_append_of_sequence (front : List UInt8) {sequence : List UInt8}
    (h : Sequence sequence) : Closed (front ++ sequence) := by
  rw [← after_eq_nothing_iff, Transducer.after_append]
  exact after_of_sequence h _

/-! ## Inputs in two parts -/

/-- An input that starts anew gives up what was pending, and is then read as if
nothing had been. -/
theorem emit_of_startsAnew {bytes : List UInt8} (h : StartsAnew bytes) (pending : Pending) :
    unitReader.emit pending bytes = pending.atEnd ++ unitReader.emit .nothing bytes := by
  cases bytes with
  | nil => exact (List.append_nil pending.atEnd).symm
  | cons b rest =>
    have hb := h b rfl
    rw [Transducer.emit, Transducer.emit, unitReader_step, step_of_not_isContinuation hb pending,
      step_of_not_isContinuation hb .nothing, Pending.atEnd, List.nil_append, List.append_assoc]

/-- Where a part starts anew or leaves no sequence open, it and the other one yield
what they yield alone. -/
theorem units_append {a b : List UInt8} (h : StartsAnew b ∨ Closed a) :
    units (a ++ b) = units a ++ units b := by
  have hwhole : units (a ++ b) =
      unitReader.written .nothing a ++ unitReader.emit (unitReader.after .nothing a) b := by
    rw [units, Transducer.run_eq_emit]
    exact Transducer.emit_append _ _ a b
  have hfront : units a =
      unitReader.written .nothing a ++ (unitReader.after .nothing a).atEnd := by
    rw [units, Transducer.run_eq_emit]
    exact Transducer.emit_eq _ _ a
  have hback : unitReader.emit (unitReader.after .nothing a) b =
      (unitReader.after .nothing a).atEnd ++ units b := by
    rw [units, Transducer.run_eq_emit]
    rcases h with hanew | hclosed
    · exact emit_of_startsAnew hanew _
    · rw [after_eq_nothing_iff.mpr hclosed]
      rfl
  rw [hwhole, hfront, hback, List.append_assoc]

/-- The text of two parts is that of each, unless the halves of a pair of surrogates
meet. -/
theorem decode_append_iff {a b : List UInt8} (h : StartsAnew b ∨ Closed a) :
    decode (a ++ b) = decode a ++ decode b ↔ ¬ Utf16.HalvesMeet (units a) (units b) := by
  rw [decode, decode, decode, units_append h, ← String.ofList_append, String.ofList_inj,
    Utf16.decode_eq_chars, Utf16.decode_eq_chars, Utf16.decode_eq_chars, Utf16.chars_append_iff]

/-! ## Malformed pieces -/

/-- The pieces of an input that are malformed where they stand, which the bytes
before and after them decide: a sequence that is cut short by what comes after it, a
continuation byte outside a sequence, and a byte that opens no sequence. -/
inductive Malformed (before after : List UInt8) : List UInt8 → Prop
  | cutShort {cut : List UInt8} (hcut : CutShort cut) (hafter : StartsAnew after) :
      Malformed before after cut
  | stray {c : UInt8} (hc : isContinuation c = true) (hbefore : Closed before) :
      Malformed before after [c]
  | beyond {b : UInt8} (hb : 0xF0 ≤ b) : Malformed before after [b]

theorem CutShort.startsAnew {cut : List UInt8} (h : CutShort cut) (after : List UInt8) :
    StartsAnew (cut ++ after) := by
  intro b hb
  apply not_isContinuation
  cases h with
  | two hlead =>
    obtain rfl := Option.some.inj hb
    have hnumber := isLeadTwo_iff.mp hlead
    omega
  | three hlead =>
    obtain rfl := Option.some.inj hb
    have hnumber := isLeadThree_iff.mp hlead
    omega
  | threeLate hlead hc =>
    obtain rfl := Option.some.inj hb
    have hnumber := isLeadThree_iff.mp hlead
    omega

/-- A sequence that is cut short yields U+FFFD, at the end that cuts it short. -/
theorem units_of_cutShort {cut : List UInt8} (h : CutShort cut) : units cut = [replacement] := by
  rw [units, Transducer.run_eq_emit]
  show unitReader.emit .nothing cut = _
  cases h with
  | two hlead =>
    rw [Transducer.emit, unitReader_step, step_of_isLeadTwo hlead, Transducer.emit]
    rfl
  | three hlead =>
    rw [Transducer.emit, unitReader_step, step_of_isLeadThree hlead, Transducer.emit]
    rfl
  | threeLate hlead hc =>
    rw [Transducer.emit, Transducer.emit, unitReader_step, step_of_isLeadThree hlead,
      step_two_of_isContinuation hc, Transducer.emit]
    rfl

/-- A stray byte yields U+FFFD and leaves no sequence open. -/
theorem units_and_closed_of_stray {b : UInt8} (h : isContinuation b = true ∨ 0xF0 ≤ b.toNat) :
    units [b] = [replacement] ∧ Closed [b] := by
  have hstep : unitReader.step .nothing b = ([replacement], .nothing) := begin_of_stray h
  constructor
  · rw [units, Transducer.run_eq_emit]
    show unitReader.emit .nothing [b] = _
    rw [Transducer.emit, hstep, Transducer.emit]
    rfl
  · rw [← after_eq_nothing_iff, Transducer.after, hstep, Transducer.after]

/-- A malformed piece yields U+FFFD once, between what the bytes around it yield. -/
theorem units_of_malformed {before after piece : List UInt8} (h : Malformed before after piece) :
    units (before ++ (piece ++ after)) = units before ++ replacement :: units after := by
  cases h with
  | cutShort hcut hafter =>
    rw [units_append (.inl (hcut.startsAnew after)), units_append (.inl hafter),
      units_of_cutShort hcut, List.singleton_append]
  | stray hc hbefore =>
    obtain ⟨hunits, hclosed⟩ := units_and_closed_of_stray (.inl hc)
    rw [units_append (.inr hbefore), units_append (.inr hclosed), hunits, List.singleton_append]
  | @beyond b hb =>
    have hnumber : 0xF0 ≤ b.toNat := UInt8.le_iff_toNat_le.mp hb
    obtain ⟨hunits, hclosed⟩ := units_and_closed_of_stray (.inr hnumber)
    have hanew : StartsAnew ([b] ++ after) := by
      intro first hfirst
      obtain rfl := Option.some.inj hfirst
      exact not_isContinuation (.inr (Nat.le_trans (by decide) hnumber))
    rw [units_append (.inl hanew), units_append (.inr hclosed), hunits, List.singleton_append]

/-- U+FFFD is no surrogate, so the texts around a malformed piece stay as they are. -/
theorem decode_of_malformed {before after piece : List UInt8} (h : Malformed before after piece) :
    decode (before ++ (piece ++ after)) = decode before ++ "\uFFFD" ++ decode after := by
  have hbefore : ¬ Utf16.HalvesMeet (units before) (replacement :: units after) := by
    rintro ⟨_, low, -, -, hhead, hlow⟩
    obtain rfl := Option.some.inj hhead
    exact absurd hlow (by decide)
  have hchars : Utf16.chars (replacement :: units after) = '\uFFFD' :: Utf16.chars (units after) :=
    Utf16.chars_cons_of_not_isHigh (by decide) _
  have htext : "\uFFFD" = String.ofList ['\uFFFD'] := rfl
  rw [decode, decode, decode, units_of_malformed h, Utf16.decode_eq_chars, Utf16.decode_eq_chars,
    Utf16.decode_eq_chars, Utf16.chars_append_of_not_halvesMeet hbefore, hchars, htext,
    ← String.ofList_append, ← String.ofList_append, List.append_assoc, List.singleton_append]

/-- Every input can be cut in two where the second part starts anew or the first one
leaves no sequence open, as it does behind every complete sequence: each part yields
its own units, and its own text too unless the halves of a pair of surrogates meet.
And a malformed piece yields U+FFFD once, wherever it stands, and changes nothing
that is read before and after it. -/
theorem units_append_and_units_of_malformed :
    (∀ a b, StartsAnew b ∨ Closed a →
      units (a ++ b) = units a ++ units b ∧
        (decode (a ++ b) = decode a ++ decode b ↔ ¬ Utf16.HalvesMeet (units a) (units b))) ∧
    (∀ front sequence, Sequence sequence → Closed (front ++ sequence)) ∧
    ∀ before after piece, Malformed before after piece →
      units (before ++ (piece ++ after)) = units before ++ replacement :: units after ∧
        decode (before ++ (piece ++ after)) = decode before ++ "\uFFFD" ++ decode after := by
  refine ⟨?_, ?_, ?_⟩
  · intro a b h
    exact ⟨units_append h, decode_append_iff h⟩
  · intro front sequence h
    exact closed_append_of_sequence front h
  · intro before after piece h
    exact ⟨units_of_malformed h, decode_of_malformed h⟩

/-- A pair of surrogates cut in two behind its first half, and a sequence of three
bytes cut short between two letters. -/
theorem units_append_of_cut_pair :
    (Sequence [0xED, 0xA0, 0xBD] ∧ decode ([0xED, 0xA0, 0xBD] ++ [0xED, 0xB8, 0x80]) ≠
      decode [0xED, 0xA0, 0xBD] ++ decode [0xED, 0xB8, 0x80]) ∧
    Malformed [0x61] [0x62] [0xE2, 0x82] ∧ decode [0x61, 0xE2, 0x82, 0x62] = "a\uFFFDb" := by
  obtain ⟨happend, hsequence, hmalformed⟩ := units_append_and_units_of_malformed
  have hhalf : Sequence [0xED, 0xA0, 0xBD] := .three (by decide) (by decide) (by decide)
  have hpiece : Malformed [0x61] [0x62] [0xE2, 0x82] := by
    refine .cutShort (.threeLate (by decide) (by decide)) ?_
    intro b hb
    obtain rfl := Option.some.inj hb
    decide
  have hclosed : Closed [0xED, 0xA0, 0xBD] := hsequence [] _ hhalf
  have hmeet : Utf16.HalvesMeet (units [0xED, 0xA0, 0xBD]) (units [0xED, 0xB8, 0x80]) :=
    ⟨0xD83D, 0xDE00, by decide, by decide, by decide, by decide⟩
  refine ⟨⟨hhalf, ?_⟩, hpiece, (hmalformed _ _ _ hpiece).2⟩
  intro hsame
  exact (happend _ _ (.inr hclosed)).2.mp hsame hmeet

end ClassOutline.Text.ModifiedUtf8
