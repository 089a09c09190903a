/-
  Proofs/Decoder/Delivered.lean --- runs on sources.

  A run on a source is a run on the bytes that the source delivers, as long as every
  demand is met by them.  The first demand that is not fails by the fault of the
  source.  The demands that a run makes are met exactly if it is settled by the bytes.
-/
import ClassOutline.Proofs.Decoder.Settled
import ClassOutline.Proofs.Decoder.Source

set_option autoImplicit false

namespace ClassOutline.Decoder

variable {α : Type}

/-! ## Demands that are met -/

/-- Whether there are as many bytes as a run asks for, each time it asks. -/
def MetBy : Decoder α → List UInt8 → Prop
  | .done _, _ => True
  | .fail _, _ => True
  | .note _ next, bytes => next.MetBy bytes
  | .need count next, bytes =>
    count ≤ bytes.length ∧ (next (bytes.take count)).MetBy (bytes.drop count)

theorem metBy_need_append {more : List UInt8 → Decoder α} {front back : List UInt8} :
    (Decoder.need front.length more).MetBy (front ++ back) ↔ (more front).MetBy back := by
  rw [MetBy, List.take_left, List.drop_left, List.length_append]
  exact and_iff_right (Nat.le_add_right _ _)

theorem not_metBy_need_of_length_lt {count : Nat} (more : List UInt8 → Decoder α)
    {bytes : List UInt8} (h : bytes.length < count) : ¬ (Decoder.need count more).MetBy bytes :=
  fun hmet => Nat.not_le.mpr h hmet.1

theorem exists_settledAt_of_metBy {d : Decoder α} {bytes : List UInt8} (h : d.MetBy bytes) :
    ∃ n, d.SettledAt bytes n := by
  induction d generalizing bytes with
  | done a => exact ⟨0, by simp, rfl, fun _ => rfl, by simp⟩
  | fail e => exact ⟨0, by simp, rfl, fun _ => rfl, by simp⟩
  | note r next ih =>
    obtain ⟨n, hsettled⟩ := ih h
    exact ⟨n, hsettled.note⟩
  | need count next ih =>
    rcases length_lt_or_exists_append count bytes with hlt | ⟨front, back, rfl, rfl⟩
    · exact absurd h (not_metBy_need_of_length_lt next hlt)
    · obtain ⟨n, hsettled⟩ := ih front (metBy_need_append.mp h)
      exact ⟨front.length + n, hsettled.need⟩

/-- Nothing is left of no bytes. -/
theorem rest_run_nil (d : Decoder α) : (d.run []).rest = [] := by
  induction d with
  | done a => rfl
  | fail e => rfl
  | note r next ih =>
    rw [run_note]
    exact ih
  | need count next ih =>
    cases count with
    | zero => exact ih []
    | succ count => rw [run_need_of_length_lt next (Nat.succ_pos count)]

/-- A run uses up what does not meet its demands, and one byte more does not change
that. -/
theorem rest_run_of_not_metBy {d : Decoder α} {bytes : List UInt8} (h : ¬ d.MetBy bytes) :
    (d.run bytes).rest = [] ∧ ∀ b, (d.run (bytes ++ [b])).rest = [] := by
  induction d generalizing bytes with
  | done a => exact absurd trivial h
  | fail e => exact absurd trivial h
  | note r next ih =>
    simp only [run_note]
    exact ih h
  | need count next ih =>
    rcases length_lt_or_exists_append count bytes with hlt | ⟨front, back, rfl, rfl⟩
    · refine ⟨by rw [run_need_of_length_lt next hlt], fun b => ?_⟩
      rcases Nat.lt_or_eq_of_le hlt with hlt' | heq
      · have hshort : (bytes ++ [b]).length < count := by
          rw [List.length_append]
          exact hlt'
        rw [run_need_of_length_lt next hshort]
      -- The byte is the last one that was missing.
      · have hcount : count = (bytes ++ [b]).length := by
          rw [List.length_append]
          exact heq.symm
        rw [hcount]
        have hrun := run_need_append next (bytes ++ [b]) []
        rw [List.append_nil] at hrun
        rw [hrun]
        exact rest_run_nil _
    · obtain ⟨hrest, hmore⟩ := ih front (mt metBy_need_append.mpr h)
      refine ⟨by rw [run_need_append, hrest], fun b => ?_⟩
      rw [List.append_assoc, run_need_append, hmore]

/-- The bytes meet every demand exactly if they settle the run. -/
theorem metBy_iff_exists_settledAt {d : Decoder α} {bytes : List UInt8} :
    d.MetBy bytes ↔ ∃ n, d.SettledAt bytes n := by
  refine ⟨exists_settledAt_of_metBy, ?_⟩
  rintro ⟨n, hsettled⟩
  refine Classical.byContradiction fun hunmet => ?_
  obtain ⟨hrest, hmore⟩ := rest_run_of_not_metBy hunmet
  have hall : bytes.take n = bytes := by
    rw [hsettled.rest, List.drop_eq_nil_iff] at hrest
    exact List.take_of_length_le hrest
  have hleft := congrArg Outcome.rest (hsettled.run_append [0])
  rw [hall, hmore] at hleft
  cases hleft

/-! ## Runs on what is left of a source -/

/-- A run whose demands are met by the bytes does not get to the fault. -/
theorem drive_take_of_metBy {d : Decoder α} {bytes : List UInt8} (h : d.MetBy bytes)
    (fault? : Option Fault) (remarks : List Remark) :
    d.drive Prospect.take ⟨bytes, fault?⟩ remarks =
      (d.drive takeBytes bytes remarks).seen (⟨·, fault?⟩) := by
  induction d generalizing bytes remarks with
  | done a => rfl
  | fail e => rfl
  | note r next ih => exact ih h (r :: remarks)
  | need count next ih =>
    rcases length_lt_or_exists_append count bytes with hlt | ⟨front, back, rfl, rfl⟩
    · exact absurd h (not_metBy_need_of_length_lt next hlt)
    · rw [drive, drive, Prospect.take_append, takeBytes_append]
      exact ih front (metBy_need_append.mp h) remarks

/-- A run whose demands are not met gets to the fault. -/
theorem result_drive_take_of_not_metBy {d : Decoder α} {bytes : List UInt8}
    (h : ¬ d.MetBy bytes) (fault? : Option Fault) (remarks : List Remark) :
    (d.drive Prospect.take ⟨bytes, fault?⟩ remarks).result =
      .error (fault?.getD .ended).error := by
  induction d generalizing bytes remarks with
  | done a => exact absurd trivial h
  | fail e => exact absurd trivial h
  | note r next ih => exact ih h (r :: remarks)
  | need count next ih =>
    rcases length_lt_or_exists_append count bytes with hlt | ⟨front, back, rfl, rfl⟩
    · rw [drive, Prospect.take_of_length_lt hlt]
    · rw [drive, Prospect.take_append]
      exact ih front (mt metBy_need_append.mpr h) remarks

/-! ## Runs on sources -/

/-- What a run on a source comes to, by what is left of the source. -/
theorem seen_runOn (d : Decoder α) (source : Source) :
    (d.runOn source).seen (fun reader => reader.source.prospect) =
      d.drive Prospect.take source.prospect [] :=
  seen_drive Reader.fill_eq_take d ⟨[], source⟩ []

theorem result_runOn (d : Decoder α) (source : Source) :
    (d.runOn source).result = (d.drive Prospect.take source.prospect []).result :=
  congrArg Outcome.result (seen_runOn d source)

section Results

variable {d : Decoder α} {source : Source} {bytes : List UInt8} {fault? : Option Fault} {n : Nat}

/-- A run on a source is the run on its bytes if these settle it. -/
theorem SettledAt.result_runOn (h : d.SettledAt bytes n)
    (hsource : source.prospect = ⟨bytes, fault?⟩) :
    (d.runOn source).result = (d.run bytes).result := by
  rw [Decoder.result_runOn, hsource, drive_take_of_metBy (metBy_iff_exists_settledAt.mpr ⟨n, h⟩)]
  rfl

/-- Otherwise it fails as the source does. -/
theorem result_runOn_of_not_settledAt (h : ¬ ∃ n, d.SettledAt bytes n)
    (hsource : source.prospect = ⟨bytes, fault?⟩) :
    (d.runOn source).result = .error (fault?.getD .ended).error := by
  rw [result_runOn, hsource]
  exact result_drive_take_of_not_metBy (mt metBy_iff_exists_settledAt.mp h) fault? []

/-- A run on a source without a fault is the run on its bytes. -/
theorem result_runOn_of_no_fault (hsource : source.prospect = ⟨bytes, none⟩) :
    (d.runOn source).result = (d.run bytes).result := by
  by_cases h : ∃ n, d.SettledAt bytes n
  · obtain ⟨n, hsettled⟩ := h
    exact hsettled.result_runOn hsource
  · rcases d.exists_settledAt_or_starved bytes with hsettled | hstarved
    · exact absurd hsettled h
    · rw [result_runOn_of_not_settledAt h hsource, hstarved.result]
      rfl

/-- A source that fails after some of the bytes is met by a run as far as these settle
it, and not before its failure. -/
theorem result_runOn_of_cut {k : Nat} {f : Fault} (hk : k ≤ bytes.length)
    (hsource : source.prospect = ⟨bytes.take k, some f⟩) :
    ((∃ n ≤ k, d.SettledAt bytes n) → (d.runOn source).result = (d.run bytes).result) ∧
      ((¬ ∃ n ≤ k, d.SettledAt bytes n) → (d.runOn source).result = .error f.error) := by
  have hlength : (bytes.take k).length = k := List.length_take_of_le hk
  have htake : ∀ n ≤ k, (bytes.take k).take n = bytes.take n := by
    intro n hn
    rw [List.take_take, Nat.min_eq_left hn]
  constructor
  · rintro ⟨n, hn, hsettled⟩
    have hcut : d.SettledAt (bytes.take k) n :=
      hsettled.of_take_eq (Nat.le_trans hn (Nat.le_of_eq hlength.symm)) (htake n hn)
    have hresult := hcut.result_append (bytes.drop k)
    rw [List.take_append_drop] at hresult
    rw [hcut.result_runOn hsource, hresult]
  · intro h
    refine result_runOn_of_not_settledAt ?_ hsource
    rintro ⟨n, hcut⟩
    have hn : n ≤ k := Nat.le_trans hcut.le_length (Nat.le_of_eq hlength)
    exact h ⟨n, hn, hcut.of_take_eq (Nat.le_trans hn hk) (htake n hn).symm⟩

end Results

end ClassOutline.Decoder
