/-
  Proofs/Text/ModifiedUtf8.lean --- decoding a text is the inverse of encoding it.

  A code unit is read back from each of its forms, whatever comes after it: the
  lead byte says how many continuation bytes follow, and the bits of all of them
  are those of the unit.  So the forms of a list of units are folded back into these
  units, and what they stand for is a matter of surrogates alone.
-/
import ClassOutline.Proofs.Text.Utf16

set_option autoImplicit false

namespace ClassOutline.Text.ModifiedUtf8

/-! ## Bits -/

/-- A unit is its high bits, and its lowest six bits behind them. -/
theorem high_or_low (u : UInt16) : (u >>> 6) <<< 6 ||| u &&& 0x3F = u := by
  apply UInt16.toBitVec_inj.mp
  ext i hi
  have hmask : ∀ j (h : j < 16), (63#16)[j] = decide (j < 6) := by decide
  by_cases hlow : i < 6
  · simp [hmask, hlow]
  · have hi' : 6 + (i - 6) = i := by omega
    simp [hmask, hlow, hi', BitVec.getLsbD_eq_getElem hi]

/-- A unit that fits into a byte is that byte. -/
theorem toUInt16_toUInt8 {u : UInt16} (h : u.toNat < 0x100) : u.toUInt8.toUInt16 = u := by
  apply UInt16.toNat.inj
  rw [UInt8.toNat_toUInt16, UInt16.toNat_toUInt8]
  exact Nat.mod_eq_of_lt h

theorem toNat_and_lt (u : UInt16) : (u &&& 0x3F).toNat < 0x40 := by
  have hle : u.toNat &&& 0x3F ≤ 0x3F := Nat.and_le_right
  rw [UInt16.toNat_and]
  exact Nat.lt_succ_of_le hle

theorem toNat_shiftRight_six (u : UInt16) : (u >>> 6).toNat = u.toNat / 64 := by
  simp [UInt16.toNat_shiftRight, Nat.shiftRight_eq_div_pow]

/-- A shift by twelve bits is one by six bits, made twice. -/
theorem shiftRight_twelve (u : UInt16) : u >>> 12 = u >>> 6 >>> 6 := by
  apply UInt16.toNat.inj
  simp [UInt16.toNat_shiftRight, Nat.shiftRight_eq_div_pow, Nat.div_div_eq_div_mul]

theorem toUInt8_lt {u : UInt16} {bound : Nat} (hbound : bound ≤ 0x100) (h : u.toNat < bound) :
    u.toUInt8.toNat < bound := by
  rw [UInt16.toNat_toUInt8, Nat.mod_eq_of_lt (Nat.lt_of_lt_of_le h hbound)]
  exact h

/-! ## Bytes

What a byte does is told by its mark; the bits behind the mark are free. -/

theorem begin_lead_two {b : UInt8} (h : b.toNat < 0x20) :
    begin (0xC0 ||| b) = ([], .one b.toUInt16) := by
  obtain ⟨b⟩ := b
  revert b
  decide

theorem begin_lead_three {b : UInt8} (h : b.toNat < 0x10) :
    begin (0xE0 ||| b) = ([], .two b.toUInt16) := by
  obtain ⟨b⟩ := b
  revert b
  decide

theorem isContinuation_mark {b : UInt8} (h : b.toNat < 0x40) :
    isContinuation (0x80 ||| b) = true ∧ (0x80 ||| b) &&& 0x3F = b := by
  obtain ⟨b⟩ := b
  revert b
  decide

/-- A continuation byte takes its place behind the bits so far. -/
theorem isContinuation_and_extend (bits u : UInt16) :
    isContinuation (Form.continuation u) = true ∧
      extend bits (Form.continuation u) = bits <<< 6 ||| u &&& 0x3F := by
  have hlt := toNat_and_lt u
  obtain ⟨hmark, hbits⟩ := isContinuation_mark (toUInt8_lt (by decide) hlt)
  refine ⟨hmark, ?_⟩
  rw [extend, Form.continuation, hbits, toUInt16_toUInt8 (Nat.lt_of_lt_of_le hlt (by decide))]

/-! ## One unit at a time -/

section Emit

variable (bits u : UInt16) (rest : List UInt8)

theorem emit_nothing_cons {b : UInt8} {written : List UInt16} {next : Pending}
    (h : begin b = (written, next)) :
    unitReader.emit .nothing (b :: rest) = written ++ unitReader.emit next rest := by
  simp [Transducer.emit, unitReader, step, h]

theorem emit_one_continuation :
    unitReader.emit (.one bits) (Form.continuation u :: rest) =
      (bits <<< 6 ||| u &&& 0x3F) :: unitReader.emit .nothing rest := by
  obtain ⟨hmark, hbits⟩ := isContinuation_and_extend bits u
  simp [Transducer.emit, unitReader, step, hmark, hbits]

theorem emit_two_continuation :
    unitReader.emit (.two bits) (Form.continuation u :: rest) =
      unitReader.emit (.one (bits <<< 6 ||| u &&& 0x3F)) rest := by
  obtain ⟨hmark, hbits⟩ := isContinuation_and_extend bits u
  simp [Transducer.emit, unitReader, step, hmark, hbits]

end Emit

/-- The bytes of a unit write that unit, and then what the bytes after them write. -/
theorem emit_bytes_append {form : Form} {u : UInt16} (h : form.Holds u) (rest : List UInt8) :
    unitReader.emit .nothing (form.bytes u ++ rest) = u :: unitReader.emit .nothing rest := by
  cases form with
  | one =>
    have hlt : u.toNat < 0x80 := UInt16.lt_iff_toNat_lt.mp h
    have hbyte : u.toUInt8 < 0x80 := UInt8.lt_iff_toNat_lt.mpr (toUInt8_lt (by decide) hlt)
    have hunit : u.toUInt8.toUInt16 = u :=
      toUInt16_toUInt8 (Nat.lt_of_lt_of_le hlt (by decide))
    have hbegin : begin u.toUInt8 = ([u], .nothing) := by rw [begin, if_pos hbyte, hunit]
    exact emit_nothing_cons rest hbegin
  | two =>
    have hlt : u.toNat < 0x800 := UInt16.lt_iff_toNat_lt.mp h
    have hhigh : (u >>> 6).toNat < 0x20 := by
      rw [toNat_shiftRight_six]
      omega
    have hbegin := begin_lead_two (toUInt8_lt (by decide) hhigh)
    rw [toUInt16_toUInt8 (Nat.lt_of_lt_of_le hhigh (by decide))] at hbegin
    calc unitReader.emit .nothing (Form.two.bytes u ++ rest)
        = unitReader.emit (.one (u >>> 6)) (Form.continuation u :: rest) :=
          emit_nothing_cons _ hbegin
      _ = ((u >>> 6) <<< 6 ||| u &&& 0x3F) :: unitReader.emit .nothing rest :=
          emit_one_continuation _ u rest
      _ = u :: unitReader.emit .nothing rest := by rw [high_or_low]
  | three =>
    have hhigh : (u >>> 12).toNat < 0x10 := by
      have hlt : u.toNat < 0x10000 := u.toNat_lt
      rw [shiftRight_twelve, toNat_shiftRight_six, toNat_shiftRight_six]
      omega
    have hbegin := begin_lead_three (toUInt8_lt (by decide) hhigh)
    rw [toUInt16_toUInt8 (Nat.lt_of_lt_of_le hhigh (by decide))] at hbegin
    calc unitReader.emit .nothing (Form.three.bytes u ++ rest)
        = unitReader.emit (.two (u >>> 12))
            (Form.continuation (u >>> 6) :: Form.continuation u :: rest) :=
          emit_nothing_cons _ hbegin
      _ = unitReader.emit (.one ((u >>> 12) <<< 6 ||| u >>> 6 &&& 0x3F))
            (Form.continuation u :: rest) :=
          emit_two_continuation _ (u >>> 6) _
      _ = unitReader.emit (.one (u >>> 6)) (Form.continuation u :: rest) := by
          rw [shiftRight_twelve, high_or_low]
      _ = ((u >>> 6) <<< 6 ||| u &&& 0x3F) :: unitReader.emit .nothing rest :=
          emit_one_continuation _ u rest
      _ = u :: unitReader.emit .nothing rest := by rw [high_or_low]

/-! ## Lists of units -/

/-- The forms of a list of units are folded back into these units. -/
theorem units_spelling {spelled : List (Form × UInt16)} (h : ∀ p ∈ spelled, p.1.Holds p.2) :
    units (spelling spelled) = spelled.map Prod.snd := by
  rw [units, Transducer.run_eq_emit]
  induction spelled with
  | nil => rfl
  | cons p spelled ih =>
    obtain ⟨hp, hspelled⟩ := List.forall_mem_cons.mp h
    have hcons : spelling (p :: spelled) = p.1.bytes p.2 ++ spelling spelled := rfl
    rw [hcons, List.map_cons, ← ih hspelled]
    exact emit_bytes_append hp _

/-- A text is got back from the bytes that a writer chooses for it. -/
theorem decode_encode (text : String) : decode (encode text) = text := by
  have hholds : ∀ p ∈ (Utf16.encode text.toList).map fun u => (Form.chosen u, u),
      p.1.Holds p.2 := by
    intro p hp
    obtain ⟨u, -, rfl⟩ := List.mem_map.mp hp
    exact Form.chosen_holds u
  have hsnd : ((Utf16.encode text.toList).map fun u => (Form.chosen u, u)).map Prod.snd =
      Utf16.encode text.toList := by
    simp [Function.comp_def]
  rw [decode, encode, units_spelling hholds, hsnd, Utf16.decode_eq_chars, Utf16.chars_encode,
    String.ofList_toList]

/-- Whatever form each code unit is written in, its bytes are folded back into it, and
the text is what the units stand for: two surrogates side by side for a
supplementary character, a surrogate on its own for U+FFFD, and any other unit for
itself.  So a text is got back from the bytes that a writer chooses for it. -/
theorem decode_spelling_and_encode :
    (∀ spelled : List (Form × UInt16), (∀ p ∈ spelled, p.1.Holds p.2) →
      units (spelling spelled) = spelled.map Prod.snd ∧
        decode (spelling spelled) = String.ofList (Utf16.chars (spelled.map Prod.snd))) ∧
      ∀ text : String, decode (encode text) = text := by
  refine ⟨?_, decode_encode⟩
  intro spelled h
  have hunits := units_spelling h
  refine ⟨hunits, ?_⟩
  rw [decode, hunits, Utf16.decode_eq_chars]

/-- The unit 0 in its two longer forms, a letter in two bytes, a pair of surrogates
and half a pair. -/
theorem decode_spelling_of_mixed_forms :
    (∀ p ∈ [(Form.two, 0), (.three, 0), (.two, 0x41), (.three, 0xD83D), (.three, 0xDE00),
        (.three, 0xDE00)], p.1.Holds p.2) ∧
      decode [0xC0, 0x80, 0xE0, 0x80, 0x80, 0xC1, 0x81, 0xED, 0xA0, 0xBD, 0xED, 0xB8, 0x80,
        0xED, 0xB8, 0x80] = "\x00\x00A😀\uFFFD" := by
  have hholds : ∀ p ∈ [(Form.two, 0), (.three, 0), (.two, 0x41), (.three, 0xD83D),
      (.three, 0xDE00), (.three, 0xDE00)], p.1.Holds p.2 := by decide
  exact ⟨hholds, (decode_spelling_and_encode.1 _ hholds).2⟩

end ClassOutline.Text.ModifiedUtf8
