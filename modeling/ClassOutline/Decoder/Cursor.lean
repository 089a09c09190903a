/-
  Decoder/Cursor.lean --- one reader for many runs.

  A cursor reads through a buffer of its own, which it keeps from one read to the
  next and from one run to the next.  The buffer never shrinks while the reads
  succeed, so it mostly holds bytes of reads that are long over.
-/
import ClassOutline.Decoder.Basic

set_option autoImplicit false

namespace ClassOutline

/-- A reader over a list of bytes: its buffer, with what earlier reads have left in
it, and the bytes that it has not read. -/
structure Cursor where
  scratch : List UInt8
  bytes : List UInt8
  deriving DecidableEq, Repr

namespace Cursor

/-- A new cursor, with an empty buffer. -/
def ofBytes (bytes : List UInt8) : Cursor := ⟨[], bytes⟩

@[simp] theorem bytes_ofBytes (bytes : List UInt8) : (ofBytes bytes).bytes = bytes := rfl

/-- Reads `count` bytes into the buffer and hands out its front.  A buffer that is
large enough is overwritten at the front, or stays as it is if there are too few
bytes.  One that is not is emptied and takes what there is, even if that is too
little. -/
def fill : Decoder.Supply Cursor := fun count cursor =>
  let arrived := cursor.bytes.take count
  let bytes := cursor.bytes.drop count
  -- The length of the whole buffer is not taken: it may be far larger than the read.
  if (cursor.scratch.take count).length = count then
    if arrived.length = count then
      let scratch := arrived ++ cursor.scratch.drop count
      (.ok (scratch.take count), ⟨scratch, bytes⟩)
    else (.error .truncated, ⟨cursor.scratch, bytes⟩)
  else
    if arrived.length < count then (.error .truncated, ⟨arrived, bytes⟩)
    else (.ok (arrived.take count), ⟨arrived, bytes⟩)

end Cursor

namespace Decoder

variable {α : Type}

/-- Runs a decoder on a cursor. -/
def runThrough (d : Decoder α) (cursor : Cursor) : Outcome Cursor α :=
  d.drive Cursor.fill cursor []

/-- The outcomes of a number of runs of a decoder on one cursor, each where the run
before has left it. -/
def runsThrough (d : Decoder α) : (times : Nat) → Cursor → List (Outcome Cursor α)
  | 0, _ => []
  | times + 1, cursor =>
    let outcome := d.runThrough cursor
    outcome :: d.runsThrough times outcome.rest

/-- Runs a decoder a number of times on one cursor, which is new at first. -/
def runRepeatedly (d : Decoder α) (times : Nat) (bytes : List UInt8) :
    List (Except DecodeError α) :=
  (d.runsThrough times (.ofBytes bytes)).map Outcome.result

end Decoder

end ClassOutline
