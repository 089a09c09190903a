/-
  Proofs/Decoder/Cursor.lean --- what a cursor hands out does not depend on its
  buffer.

  A read through a buffer hands out the bytes that come next, whatever earlier
  reads have left in it.  So a run on a cursor that was used before ends as a run
  on a new one does, and leaves the same bytes to the run after it.
-/
import ClassOutline.Decoder.Cursor
import ClassOutline.Proofs.Decoder.Accepted

set_option autoImplicit false

namespace ClassOutline

open Decoder

/-! ## Reads -/

/-- A read gives what the bytes alone would give, and moves on as they would. -/
theorem Cursor.fill_eq_takeBytes (count : Nat) (cursor : Cursor) :
    takeBytes count cursor.bytes =
      ((Cursor.fill count cursor).1, (Cursor.fill count cursor).2.bytes) := by
  obtain ⟨scratch, bytes⟩ := cursor
  rcases length_lt_or_exists_append count bytes with hlt | ⟨front, back, rfl, rfl⟩
  · have hshort : (bytes.take count).length < count := by
      rw [List.length_take]
      omega
    have hdrop : bytes.drop count = [] := List.drop_eq_nil_of_le (Nat.le_of_lt hlt)
    rw [takeBytes_of_length_lt hlt]
    simp only [Cursor.fill, hdrop, if_neg (Nat.ne_of_lt hshort), if_pos hshort]
    split <;> rfl
  · rw [takeBytes_append]
    -- What was written over the front of the buffer is all that is handed out.
    have hfront : (front ++ scratch.drop front.length).take front.length = front :=
      List.take_left
    simp only [Cursor.fill, List.take_left, List.drop_left, hfront, if_pos,
      if_neg (Nat.lt_irrefl _), List.take_length]
    split <;> rfl

namespace Decoder

variable {α : Type}

/-! ## Runs -/

/-- A run on a cursor ends as the run on its bytes does. -/
theorem seen_runThrough (d : Decoder α) (cursor : Cursor) :
    (d.runThrough cursor).seen Cursor.bytes = d.run cursor.bytes :=
  seen_drive Cursor.fill_eq_takeBytes d cursor []

theorem result_runThrough (d : Decoder α) (cursor : Cursor) :
    (d.runThrough cursor).result = (d.run cursor.bytes).result :=
  congrArg Outcome.result (seen_runThrough d cursor)

theorem bytes_rest_runThrough (d : Decoder α) (cursor : Cursor) :
    (d.runThrough cursor).rest.bytes = (d.run cursor.bytes).rest :=
  congrArg Outcome.rest (seen_runThrough d cursor)

/-- The outcomes of a number of runs of a decoder, each on a new cursor over the
bytes that the run before has left. -/
def runsAfresh (d : Decoder α) : (times : Nat) → List UInt8 → List (Outcome Cursor α)
  | 0, _ => []
  | times + 1, bytes =>
    let outcome := d.runThrough (.ofBytes bytes)
    outcome :: d.runsAfresh times outcome.rest.bytes

/-- Runs on one cursor end as runs on new cursors do. -/
theorem seen_runsThrough (d : Decoder α) (times : Nat) (cursor : Cursor) :
    (d.runsThrough times cursor).map (Outcome.seen Cursor.bytes) =
      (d.runsAfresh times cursor.bytes).map (Outcome.seen Cursor.bytes) := by
  induction times generalizing cursor with
  | zero => rfl
  | succ times ih =>
    have hrest : (d.runThrough (.ofBytes cursor.bytes)).rest.bytes =
        (d.runThrough cursor).rest.bytes := by
      rw [bytes_rest_runThrough, bytes_rest_runThrough, Cursor.bytes_ofBytes]
    rw [runsThrough, runsAfresh, List.map_cons, List.map_cons, seen_runThrough, seen_runThrough,
      Cursor.bytes_ofBytes, hrest, ih]

/-! ## Files in a row -/

/-- Where a decoder needs some bytes, it finds too few in none, however often it
is run. -/
theorem results_runsThrough_of_nil {d : Decoder α} (h : d.run [] = ⟨[], .error .truncated, []⟩)
    (times : Nat) {cursor : Cursor} (hbytes : cursor.bytes = []) :
    (d.runsThrough times cursor).map Outcome.result =
      List.replicate times (.error .truncated) := by
  induction times generalizing cursor with
  | zero => rfl
  | succ times ih =>
    have hrest : (d.runThrough cursor).rest.bytes = [] := by
      rw [bytes_rest_runThrough, hbytes, h]
    rw [runsThrough, List.map_cons, ih hrest, result_runThrough, hbytes, h, List.replicate_succ]

/-- Accepted pieces are answered one after the other, whatever follows them. -/
theorem results_runsThrough_flatten {d : Decoder α} {pieces : List (List UInt8)}
    (hpieces : ∀ piece ∈ pieces, ∃ a, d.Accepted a piece) (tail : List UInt8) (times : Nat)
    {cursor : Cursor} (hbytes : cursor.bytes = pieces.flatten ++ tail) :
    ∃ last : Cursor, last.bytes = tail ∧
      (d.runsThrough (pieces.length + times) cursor).map Outcome.result =
        pieces.map (fun piece => (d.run piece).result) ++
          (d.runsThrough times last).map Outcome.result := by
  induction pieces generalizing cursor with
  | nil => exact ⟨cursor, hbytes, by simp⟩
  | cons piece rest ih =>
    obtain ⟨⟨a, haccepted⟩, hrest⟩ := List.forall_mem_cons.mp hpieces
    rw [List.flatten_cons, List.append_assoc] at hbytes
    obtain ⟨hresult, hleft⟩ := run_append_of_accepted haccepted (rest.flatten ++ tail)
    obtain ⟨halone, -⟩ := run_append_of_accepted haccepted []
    rw [List.append_nil] at halone
    have hnext : (d.runThrough cursor).rest.bytes = rest.flatten ++ tail := by
      rw [bytes_rest_runThrough, hbytes, hleft]
    obtain ⟨last, hlast, hresults⟩ := ih hrest hnext
    refine ⟨last, hlast, ?_⟩
    rw [List.length_cons, Nat.succ_add, runsThrough, List.map_cons, hresults, result_runThrough,
      hbytes, hresult, List.map_cons, halone, List.cons_append]

end Decoder

end ClassOutline
