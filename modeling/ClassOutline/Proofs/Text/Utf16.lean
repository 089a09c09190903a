/-
  Proofs/Text/Utf16.lean --- characters are got back from their code units.

  The code units of a character stand for that character wherever they occur: a
  unit that is no surrogate stands alone, and the two surrogates of a supplementary
  character pair up with each other and with no unit around them.  So units can be
  read in parts, unless a cut goes through a pair.
-/
import ClassOutline.Text.ModifiedUtf8.Spelling

set_option autoImplicit false

namespace ClassOutline.Text.Utf16

/-! ## One character at a time -/

theorem chars_cons_of_not_isHigh {u : UInt16} (h : isHigh u = false) (rest : List UInt16) :
    chars (u :: rest) = single u :: chars rest := by
  cases rest with
  | nil => simp [chars]
  | cons v rest => simp [chars, h]

theorem chars_cons_cons_of_pair {u v : UInt16} (hu : isHigh u = true) (hv : isLow v = true)
    (rest : List UInt16) : chars (u :: v :: rest) = pair u v :: chars rest := by
  simp [chars, hu, hv]

/-- The numbers of characters leave out those of surrogates. -/
theorem toNat_char_lt_or (c : Char) :
    c.toNat < 0xD800 ∨ 0xDFFF < c.toNat ∧ c.toNat < 0x110000 := c.valid

theorem isHigh_iff {u : UInt16} : isHigh u = true ↔ 0xD800 ≤ u.toNat ∧ u.toNat < 0xDC00 := by
  simp [isHigh, UInt16.le_iff_toNat_le, UInt16.lt_iff_toNat_lt]

theorem isLow_iff {u : UInt16} : isLow u = true ↔ 0xDC00 ≤ u.toNat ∧ u.toNat < 0xE000 := by
  simp [isLow, UInt16.le_iff_toNat_le, UInt16.lt_iff_toNat_lt]

/-- A unit that is no surrogate is the character of its number. -/
theorem chars_cons_of_toNat_eq {u : UInt16} {c : Char} (h : u.toNat = c.toNat)
    (rest : List UInt16) : chars (u :: rest) = c :: chars rest := by
  have hc := toNat_char_lt_or c
  have hhigh : isHigh u = false := by
    rw [Bool.eq_false_iff, ne_eq, isHigh_iff]
    omega
  have hlow : isLow u = false := by
    rw [Bool.eq_false_iff, ne_eq, isLow_iff]
    omega
  have hsingle : single u = c := by
    rw [single, hhigh, hlow, h]
    exact Char.ofNat_toNat c
  rw [chars_cons_of_not_isHigh hhigh, hsingle]

/-- Two surrogates stand for the character whose number they share between them. -/
theorem chars_cons_cons_of_toNat_eq {u v : UInt16} {c : Char} (hc : 0x10000 ≤ c.toNat)
    (hu : u.toNat = 0xD800 + (c.toNat - 0x10000) / 0x400)
    (hv : v.toNat = 0xDC00 + (c.toNat - 0x10000) % 0x400) (rest : List UInt16) :
    chars (u :: v :: rest) = c :: chars rest := by
  have hlt := toNat_char_lt_or c
  have hhigh : isHigh u = true := by
    rw [isHigh_iff]
    omega
  have hlow : isLow v = true := by
    rw [isLow_iff]
    omega
  have hnumber : 0x10000 + (u.toNat - 0xD800) * 0x400 + (v.toNat - 0xDC00) = c.toNat := by
    omega
  have hpair : pair u v = c := by
    rw [pair, hnumber]
    exact Char.ofNat_toNat c
  rw [chars_cons_cons_of_pair hhigh hlow, hpair]

/-! ## Units in two parts

Where a list of units is cut in two, only a pair of surrogates with the cut between
them can make a difference. -/

/-- Whether one list of units ends in the first half of a pair and another opens
with the second. -/
def HalvesMeet (us vs : List UInt16) : Prop :=
  ∃ high low, us.getLast? = some high ∧ isHigh high = true ∧ vs.head? = some low ∧
    isLow low = true

theorem HalvesMeet.of_cons {u : UInt16} {us vs : List UInt16} (h : HalvesMeet us vs) :
    HalvesMeet (u :: us) vs := by
  obtain ⟨high, low, hlast, hhigh, hlow⟩ := h
  refine ⟨high, low, ?_, hhigh, hlow⟩
  rw [List.getLast?_cons, hlast]
  rfl

theorem chars_append_of_not_halvesMeet {us vs : List UInt16} (h : ¬ HalvesMeet us vs) :
    chars (us ++ vs) = chars us ++ chars vs := by
  fun_induction chars us with
  | case1 => rfl
  | case2 u =>
    rw [List.singleton_append, List.singleton_append]
    cases vs with
    | nil => rw [chars, chars]
    | cons v vs =>
      have hpair : ¬ (isHigh u && isLow v) = true := by
        intro hboth
        rw [Bool.and_eq_true] at hboth
        exact h ⟨u, v, rfl, hboth.1, rfl, hboth.2⟩
      rw [chars, if_neg hpair]
  | case3 u v rest hpair ih =>
    have hrest : ¬ HalvesMeet rest vs := fun hmeet => h hmeet.of_cons.of_cons
    rw [List.cons_append, List.cons_append, chars, if_pos hpair, ih hrest, List.cons_append]
  | case4 u v rest hpair ih =>
    have hrest : ¬ HalvesMeet (v :: rest) vs := fun hmeet => h hmeet.of_cons
    rw [List.cons_append, List.cons_append, chars, if_neg hpair, ← List.cons_append, ih hrest,
      List.cons_append]

theorem isLow_eq_false_of_isHigh {u : UInt16} (h : isHigh u = true) : isLow u = false := by
  rw [isHigh_iff] at h
  rw [Bool.eq_false_iff, ne_eq, isLow_iff]
  omega

theorem isHigh_eq_false_of_isLow {u : UInt16} (h : isLow u = true) : isHigh u = false := by
  rw [isLow_iff] at h
  rw [Bool.eq_false_iff, ne_eq, isHigh_iff]
  omega

/-- A pair that is cut in two is one character with its halves together and two
with them apart. -/
theorem length_chars_append_of_halvesMeet {us vs : List UInt16} (h : HalvesMeet us vs) :
    (chars us).length + (chars vs).length = (chars (us ++ vs)).length + 1 := by
  obtain ⟨high, low, hlast, hhigh, hhead, hlow⟩ := h
  obtain ⟨front, rfl⟩ := List.getLast?_eq_some_iff.mp hlast
  obtain ⟨rest, rfl⟩ := List.head?_eq_some_iff.mp hhead
  -- The high surrogate is no second half itself, so what is before it stays apart.
  have hfront : ∀ units, ¬ HalvesMeet front (high :: units) := by
    rintro units ⟨_, _, -, -, hnext, hnextLow⟩
    obtain rfl := Option.some.inj hnext
    rw [isLow_eq_false_of_isHigh hhigh] at hnextLow
    exact Bool.false_ne_true hnextLow
  have htogether : chars (front ++ [high] ++ low :: rest) =
      chars front ++ pair high low :: chars rest := by
    rw [List.append_assoc, List.singleton_append, chars_append_of_not_halvesMeet (hfront _),
      chars_cons_cons_of_pair hhigh hlow]
  have hfirst : chars (front ++ [high]) = chars front ++ [single high] := by
    rw [chars_append_of_not_halvesMeet (hfront _), chars]
  rw [htogether, hfirst, chars_cons_of_not_isHigh (isHigh_eq_false_of_isLow hlow)]
  simp only [List.length_append, List.length_cons, List.length_nil]
  omega

/-- What two lists of units stand for, one after the other, is what they stand for
together, unless the halves of a pair meet. -/
theorem chars_append_iff {us vs : List UInt16} :
    chars (us ++ vs) = chars us ++ chars vs ↔ ¬ HalvesMeet us vs := by
  refine ⟨?_, chars_append_of_not_halvesMeet⟩
  intro happend hmeet
  have hlength := length_chars_append_of_halvesMeet hmeet
  rw [happend, List.length_append] at hlength
  omega

/-! ## Whole texts -/

theorem chars_ofChar_append (c : Char) (rest : List UInt16) :
    chars (ofChar c ++ rest) = c :: chars rest := by
  have hlt := toNat_char_lt_or c
  unfold ofChar
  split
  · rename_i hsmall
    exact chars_cons_of_toNat_eq (UInt16.toNat_ofNat_of_lt' hsmall) rest
  · refine chars_cons_cons_of_toNat_eq (by omega) ?_ ?_ rest
    · refine UInt16.toNat_ofNat_of_lt' ?_
      rw [UInt16.size]
      omega
    · refine UInt16.toNat_ofNat_of_lt' ?_
      rw [UInt16.size]
      omega

/-- Characters are got back from their code units. -/
theorem chars_encode (cs : List Char) : chars (encode cs) = cs := by
  induction cs with
  | nil => rfl
  | cons c cs ih =>
    have hcons : encode (c :: cs) = ofChar c ++ encode cs := rfl
    rw [hcons, chars_ofChar_append, ih]

end ClassOutline.Text.Utf16
