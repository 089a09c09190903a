/-
  Proofs/Decoder/Settled.lean --- how much of its input a run depends on.

  A run on a list of bytes ends in one of two ways.  Either it is settled by some
  bytes at the front: these decide how it ends, none of the others is touched, and
  with fewer of them it is truncated.  Or it starves: it asks for more bytes than
  there are, on the whole input as on each shorter one.
-/
import ClassOutline.Proofs.Decoder.Accepted

set_option autoImplicit false

namespace ClassOutline.Decoder

variable {α : Type}

/-! ## The two ways to end -/

/-- Whether the first `n` bytes settle a run. -/
structure SettledAt (d : Decoder α) (bytes : List UInt8) (n : Nat) : Prop where
  le_length : n ≤ bytes.length
  /-- The bytes behind them are left. -/
  rest : (d.run bytes).rest = bytes.drop n
  /-- Other bytes in the place of those make no difference. -/
  run_append : ∀ tail, d.run (bytes.take n ++ tail) = { d.run bytes with rest := tail }
  /-- Fewer bytes are too few. -/
  truncated : ∀ k < n, (d.run (bytes.take k)).result = .error .truncated

/-- Whether a run finds too few bytes, however early the input ends. -/
structure Starved (d : Decoder α) (bytes : List UInt8) : Prop where
  result : (d.run bytes).result = .error .truncated
  rest : (d.run bytes).rest = []
  truncated : ∀ k, (d.run (bytes.take k)).result = .error .truncated

/-! ## One step of a decoder -/

section Steps

variable {r : Remark} {next : Decoder α} {more : List UInt8 → Decoder α} {bytes : List UInt8}
  {n : Nat}

theorem SettledAt.note (h : next.SettledAt bytes n) : (Decoder.note r next).SettledAt bytes n where
  le_length := h.le_length
  rest := by rw [run_note, h.rest]
  run_append tail := by rw [run_note, run_note, h.run_append tail]
  truncated k hk := by
    rw [run_note]
    exact h.truncated k hk

theorem Starved.note (h : next.Starved bytes) : (Decoder.note r next).Starved bytes where
  result := by
    rw [run_note]
    exact h.result
  rest := by rw [run_note, h.rest]
  truncated k := by
    rw [run_note]
    exact h.truncated k

/-- The part of an input that is too short for a demand starves it. -/
theorem starved_of_length_lt {count : Nat} (h : bytes.length < count) :
    (Decoder.need count more).Starved bytes where
  result := by rw [run_need_of_length_lt more h]
  rest := by rw [run_need_of_length_lt more h]
  truncated k := by
    have hshort : (bytes.take k).length < count := by
      rw [List.length_take]
      omega
    rw [run_need_of_length_lt more hshort]

/-- A cut before the end of a demand truncates it, a later one is a cut of what
comes after. -/
theorem result_run_need_take {front back : List UInt8} {k : Nat}
    (h : ∀ j, k = front.length + j → ((more front).run (back.take j)).result = .error .truncated) :
    ((Decoder.need front.length more).run ((front ++ back).take k)).result =
      .error .truncated := by
  by_cases hk : k < front.length
  · have hshort : ((front ++ back).take k).length < front.length := by
      rw [List.length_take]
      omega
    rw [run_need_of_length_lt more hshort]
  · obtain ⟨j, rfl⟩ := Nat.exists_eq_add_of_le (Nat.not_lt.mp hk)
    rw [List.take_length_add_append, run_need_append]
    exact h j rfl

theorem SettledAt.need {front back : List UInt8} (h : (more front).SettledAt back n) :
    (Decoder.need front.length more).SettledAt (front ++ back) (front.length + n) where
  le_length := by
    have hle := h.le_length
    rw [List.length_append]
    omega
  rest := by rw [run_need_append, h.rest, List.drop_length_add_append]
  run_append tail := by
    rw [List.take_length_add_append, List.append_assoc, run_need_append, run_need_append,
      h.run_append tail]
  truncated k hk := by
    refine result_run_need_take ?_
    rintro j rfl
    exact h.truncated j (by omega)

theorem Starved.need {front back : List UInt8} (h : (more front).Starved back) :
    (Decoder.need front.length more).Starved (front ++ back) where
  result := by rw [run_need_append, h.result]
  rest := by rw [run_need_append, h.rest]
  truncated k := result_run_need_take fun j _ => h.truncated j

end Steps

/-! ## Every run -/

/-- A run is settled somewhere or starves. -/
theorem exists_settledAt_or_starved (d : Decoder α) (bytes : List UInt8) :
    (∃ n, d.SettledAt bytes n) ∨ d.Starved bytes := by
  induction d generalizing bytes with
  | done a => exact .inl ⟨0, by simp, rfl, fun _ => rfl, by simp⟩
  | fail e => exact .inl ⟨0, by simp, rfl, fun _ => rfl, by simp⟩
  | note r next ih =>
    rcases ih bytes with ⟨n, hsettled⟩ | hstarved
    · exact .inl ⟨n, hsettled.note⟩
    · exact .inr hstarved.note
  | need count next ih =>
    rcases length_lt_or_exists_append count bytes with hlt | ⟨front, back, rfl, rfl⟩
    · exact .inr (starved_of_length_lt hlt)
    · rcases ih front back with ⟨n, hsettled⟩ | hstarved
      · exact .inl ⟨front.length + n, hsettled.need⟩
      · exact .inr hstarved.need

/-- A run that was not truncated is settled. -/
theorem exists_settledAt_of_result_ne {d : Decoder α} {bytes : List UInt8}
    (h : (d.run bytes).result ≠ .error .truncated) : ∃ n, d.SettledAt bytes n := by
  rcases d.exists_settledAt_or_starved bytes with hsettled | hstarved
  · exact hsettled
  · exact absurd hstarved.result h

/-- What a settled run ends in does not change when the input is longer. -/
theorem SettledAt.result_append {d : Decoder α} {bytes : List UInt8} {n : Nat}
    (h : d.SettledAt bytes n) (tail : List UInt8) :
    (d.run (bytes ++ tail)).result = (d.run bytes).result := by
  have happend := h.run_append (bytes.drop n ++ tail)
  rw [← List.append_assoc, List.take_append_drop] at happend
  rw [happend]

/-- Bytes that settle a run settle it on every input that opens with them. -/
theorem SettledAt.of_take_eq {d : Decoder α} {bytes other : List UInt8} {n : Nat}
    (h : d.SettledAt bytes n) (hle : n ≤ other.length) (htake : other.take n = bytes.take n) :
    d.SettledAt other n := by
  have hrun : d.run other = { d.run bytes with rest := other.drop n } := by
    rw [← h.run_append, ← htake, List.take_append_drop]
  refine ⟨hle, congrArg Outcome.rest hrun, ?_, ?_⟩
  · intro tail
    rw [htake, h.run_append tail, hrun]
  · intro k hk
    have hcut : other.take k = bytes.take k := by
      rw [← Nat.min_eq_left (Nat.le_of_lt hk), ← List.take_take, htake, List.take_take]
    rw [hcut]
    exact h.truncated k hk

/-- Accepted bytes settle the run, and no part of them does. -/
theorem settledAt_of_accepted {d : Decoder α} {a : α} {front : List UInt8}
    (h : d.Accepted a front) (tail : List UInt8) :
    d.SettledAt (front ++ tail) front.length := by
  obtain ⟨hresult, hrest⟩ := run_append_of_accepted h tail
  have hnot : (d.run (front ++ tail)).result ≠ .error .truncated := by
    rw [hresult]
    simp
  obtain ⟨n, hsettled⟩ := exists_settledAt_of_result_ne hnot
  have hlength : (front ++ tail).length - n = tail.length := by
    rw [← List.length_drop, ← hsettled.rest, hrest]
  have hle := hsettled.le_length
  rw [List.length_append] at hlength hle
  obtain rfl : n = front.length := by omega
  exact hsettled

end ClassOutline.Decoder
