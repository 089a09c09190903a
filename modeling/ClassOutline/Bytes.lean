/-
  Bytes.lean --- unsigned numbers as big-endian lists of bytes.

  A class file holds every multi-byte quantity with its most significant byte
  first.  `toNat` reads such a list and `ofNat` writes the lowest `width` bytes of
  a number; each undoes the other up to the width.  Words of 16, 32 and 64 bits
  are read and written the same way, and there nothing is lost.
-/
set_option autoImplicit false

namespace ClassOutline.Bytes

/-- The number that a list of bytes spells, most significant byte first. -/
def toNat (bytes : List UInt8) : Nat :=
  bytes.foldl (fun n b => 256 * n + b.toNat) 0

/-- How many numbers lists of `width` bytes can spell. -/
def capacity : (width : Nat) → Nat
  | 0 => 1
  | width + 1 => 256 * capacity width

/-- The lowest `width` bytes of `n`, most significant byte first. -/
def ofNat : (width : Nat) → (n : Nat) → List UInt8
  | 0, _ => []
  | width + 1, n => ofNat width (n / 256) ++ [UInt8.ofNat n]

/-! ## Reading back -/

@[simp] theorem toNat_append_singleton (bytes : List UInt8) (b : UInt8) :
    toNat (bytes ++ [b]) = 256 * toNat bytes + b.toNat := by
  simp [toNat]

@[simp] theorem length_ofNat (width n : Nat) : (ofNat width n).length = width := by
  induction width generalizing n with
  | zero => rfl
  | succ width ih => simp [ofNat, ih]

theorem capacity_pos (width : Nat) : 0 < capacity width := by
  induction width with
  | zero => decide
  | succ width ih => rw [capacity]; omega

/-- Writing keeps the number up to the width. -/
theorem toNat_ofNat (width n : Nat) : toNat (ofNat width n) = n % capacity width := by
  induction width generalizing n with
  | zero => rw [capacity, Nat.mod_one]; rfl
  | succ width ih =>
    have hbyte : (UInt8.ofNat n).toNat = n % 256 := by simp
    rw [ofNat, toNat_append_singleton, ih, hbyte, capacity, Nat.mod_mul, Nat.add_comm]

/-- Every list of bytes is the spelling of the number that it spells. -/
theorem ofNat_toNat (bytes : List UInt8) : ofNat bytes.length (toNat bytes) = bytes := by
  -- The number grows at its last byte, so the induction runs over the reversed list.
  suffices h : ∀ l : List UInt8, ofNat l.reverse.length (toNat l.reverse) = l.reverse by
    simpa using h bytes.reverse
  intro l
  induction l with
  | nil => rfl
  | cons b l ih =>
    have hb : b.toNat < 256 := b.toNat_lt
    have hdiv : (256 * toNat l.reverse + b.toNat) / 256 = toNat l.reverse := by omega
    have hlast : UInt8.ofNat (256 * toNat l.reverse + b.toNat) = b := by
      apply UInt8.toNat.inj
      simp only [UInt8.toNat_ofNat']
      omega
    rw [List.reverse_cons, List.length_append, List.length_singleton, ofNat,
      toNat_append_singleton, hdiv, hlast, ih]

/-- A list of bytes spells a number that lists of its length can spell. -/
theorem toNat_lt_capacity (bytes : List UInt8) : toNat bytes < capacity bytes.length := by
  rw [← ofNat_toNat bytes, toNat_ofNat, length_ofNat]
  exact Nat.mod_lt _ (capacity_pos _)

/-! ## Words -/

/-- The 16-bit word that the bytes spell. -/
def word16 (bytes : List UInt8) : UInt16 := UInt16.ofNat (toNat bytes)

/-- The 32-bit word that the bytes spell. -/
def word32 (bytes : List UInt8) : UInt32 := UInt32.ofNat (toNat bytes)

/-- The 64-bit word that the bytes spell. -/
def word64 (bytes : List UInt8) : UInt64 := UInt64.ofNat (toNat bytes)

/-- The two bytes of a 16-bit word. -/
def ofWord16 (w : UInt16) : List UInt8 := ofNat 2 w.toNat

/-- The four bytes of a 32-bit word. -/
def ofWord32 (w : UInt32) : List UInt8 := ofNat 4 w.toNat

/-- The eight bytes of a 64-bit word. -/
def ofWord64 (w : UInt64) : List UInt8 := ofNat 8 w.toNat

@[simp] theorem word16_ofWord16 (w : UInt16) : word16 (ofWord16 w) = w := by
  have h : w.toNat % capacity 2 = w.toNat := Nat.mod_eq_of_lt w.toNat_lt
  rw [word16, ofWord16, toNat_ofNat, h, UInt16.ofNat_toNat]

@[simp] theorem word32_ofWord32 (w : UInt32) : word32 (ofWord32 w) = w := by
  have h : w.toNat % capacity 4 = w.toNat := Nat.mod_eq_of_lt w.toNat_lt
  rw [word32, ofWord32, toNat_ofNat, h, UInt32.ofNat_toNat]

@[simp] theorem word64_ofWord64 (w : UInt64) : word64 (ofWord64 w) = w := by
  have h : w.toNat % capacity 8 = w.toNat := Nat.mod_eq_of_lt w.toNat_lt
  rw [word64, ofWord64, toNat_ofNat, h, UInt64.ofNat_toNat]

/-- Two bytes are the bytes of the word that they spell. -/
theorem ofWord16_word16 {bytes : List UInt8} (h : bytes.length = 2) :
    ofWord16 (word16 bytes) = bytes := by
  have hlt : toNat bytes < capacity 2 := h ▸ toNat_lt_capacity bytes
  have hword : (word16 bytes).toNat = toNat bytes := Nat.mod_eq_of_lt hlt
  rw [ofWord16, hword, ← h, ofNat_toNat]

/-- Four bytes are the bytes of the word that they spell. -/
theorem ofWord32_word32 {bytes : List UInt8} (h : bytes.length = 4) :
    ofWord32 (word32 bytes) = bytes := by
  have hlt : toNat bytes < capacity 4 := h ▸ toNat_lt_capacity bytes
  have hword : (word32 bytes).toNat = toNat bytes := Nat.mod_eq_of_lt hlt
  rw [ofWord32, hword, ← h, ofNat_toNat]

/-- Eight bytes are the bytes of the word that they spell. -/
theorem ofWord64_word64 {bytes : List UInt8} (h : bytes.length = 8) :
    ofWord64 (word64 bytes) = bytes := by
  have hlt : toNat bytes < capacity 8 := h ▸ toNat_lt_capacity bytes
  have hword : (word64 bytes).toNat = toNat bytes := Nat.mod_eq_of_lt hlt
  rw [ofWord64, hword, ← h, ofNat_toNat]

end ClassOutline.Bytes
