/-
  Decoder/Source.lean --- bytes that arrive in pieces, from a source that may fail.

  A source is the list of its deliveries.  Bytes are fetched from it ahead of their
  use, and a read takes what was fetched before it asks for more.  An interruption is
  passed over; a failure stays where it is, so every read that needs more bytes than
  arrived before it fails.  A decoder reads through a buffer of its own, in one of two
  ways by whether the buffer is large enough, as a cursor over a list does.
-/
import ClassOutline.Decoder.Basic

set_option autoImplicit false

namespace ClassOutline

/-- Why a source delivers no more bytes. -/
inductive Fault where
  /-- The source says that it has ended. -/
  | ended
  /-- The source failed, for a reason of its own. -/
  | failed (reason : String)
  deriving DecidableEq, Repr

/-- A fault as the failure of the read that met it: a source that ends in the
middle of a read has too few bytes. -/
def Fault.error : Fault → DecodeError
  | .ended => .truncated
  | .failed reason => .sourceFailed reason

/-- One answer of a source to a request for bytes. -/
inductive Delivery where
  | block (bytes : List UInt8)
  /-- No bytes this time; the request is to be made again. -/
  | interrupted
  /-- No bytes from here on. -/
  | fault (fault : Fault)
  deriving DecidableEq, Repr

/-- A source that was read from. -/
structure Source where
  /-- The bytes that were fetched and not handed out yet. -/
  surplus : List UInt8
  /-- The deliveries to come.  When they are used up, the source has ended. -/
  deliveries : List Delivery
  /-- How many bytes are fetched ahead at a time. -/
  ahead : Nat
  /-- How much room, over one byte, a read to the end offers at a time, by the number
  of bytes that are missing. -/
  room : Nat → Nat

namespace Source

/-- A source of which nothing was read. -/
def ofDeliveries (deliveries : List Delivery) : Source := ⟨[], deliveries, 8192, id⟩

/-! ## Reads -/

/-- Asks for at most `room` bytes, again after an interruption.  No bytes say that
the source has ended; an empty block is no delivery.  Bytes for which there is no room
are delivered next time. -/
def request (room : Nat) : List Delivery → Except Fault (List UInt8) × List Delivery
  | [] => (.ok [], [])
  | .interrupted :: deliveries => request room deliveries
  | .fault f :: deliveries => (.error f, .fault f :: deliveries)
  | .block [] :: deliveries => request room deliveries
  | .block (b :: bytes) :: deliveries =>
    match (b :: bytes).drop room with
    | [] => (.ok (b :: bytes), deliveries)
    | rest => (.ok ((b :: bytes).take room), .block rest :: deliveries)

/-- Reads at most `room` bytes.  If none are left that were fetched before, as many are
fetched as there is room for, or as are fetched ahead, whichever is more. -/
def read (room : Nat) (source : Source) : Except Fault (List UInt8) × Source :=
  match source.surplus with
  | [] =>
    match request (max room source.ahead) source.deliveries with
    | (.ok fetched, deliveries) =>
      (.ok (fetched.take room), { source with surplus := fetched.drop room, deliveries })
    | (.error f, deliveries) => (.error f, { source with deliveries })
  | surplus => (.ok (surplus.take room), { source with surplus := surplus.drop room })

/-- Reads until no bytes are missing or the source has ended, after the bytes that
were had before, last one first.  `room` tells how much room, over one byte, is
offered when some bytes are missing. -/
def gather (room : Nat → Nat) (missing : Nat) (before : List UInt8) (source : Source) :
    Except Fault (List UInt8) × Source :=
  match missing with
  | 0 => (.ok before.reverse, source)
  | missing + 1 =>
    match source.read (min (room (missing + 1) + 1) (missing + 1)) with
    | (.error f, source) => (.error f, source)
    | (.ok [], source) => (.ok before.reverse, source)
    | (.ok (b :: bytes), source) =>
      gather room (missing - bytes.length) (bytes.reverse ++ b :: before) source
termination_by missing

/-- Reads exactly `count` bytes.  To have fewer is a fault. -/
def readExact (count : Nat) (source : Source) : Except Fault (List UInt8) × Source :=
  match source.gather id count [] with
  | (.ok bytes, source) => (if bytes.length < count then .error .ended else .ok bytes, source)
  | (.error f, source) => (.error f, source)

/-- Reads to the end of the source, but at most `limit` bytes. -/
def readToEnd (limit : Nat) (source : Source) : Except Fault (List UInt8) × Source :=
  source.gather source.room limit []

end Source

/-! ## Readers -/

/-- A reader over a source: its buffer, with what earlier reads have left in it. -/
structure Reader where
  scratch : List UInt8
  source : Source

/-- Reads `count` bytes into the buffer and hands out its front.  A buffer that is
large enough is overwritten at the front.  One that is not is emptied and takes what
there is, even if that is too little. -/
def Reader.fill : Decoder.Supply Reader := fun count reader =>
  if (reader.scratch.take count).length = count then
    match reader.source.readExact count with
    | (.ok bytes, source) =>
      let scratch := bytes ++ reader.scratch.drop count
      (.ok (scratch.take count), ⟨scratch, source⟩)
    | (.error f, source) => (.error f.error, ⟨reader.scratch, source⟩)
  else
    match reader.source.readToEnd count with
    | (.ok bytes, source) =>
      (if bytes.length < count then .error .truncated else .ok (bytes.take count), ⟨bytes, source⟩)
    | (.error f, source) => (.error f.error, ⟨[], source⟩)

/-- Runs a decoder on a source, with an empty buffer at first. -/
def Decoder.runOn {α : Type} (d : Decoder α) (source : Source) : Outcome Reader α :=
  d.drive Reader.fill ⟨[], source⟩ []

/-! ## Sources over a list of bytes -/

/-- Cuts bytes into pieces of `size` bytes, the last one of which may be
shorter. -/
def pieces (size : Nat) (bytes : List UInt8) : List (List UInt8) :=
  match bytes with
  | [] => []
  | b :: rest =>
    if size = 0 then [b :: rest]
    else (b :: rest).take size :: pieces size ((b :: rest).drop size)
termination_by bytes.length
decreasing_by
  simp only [List.length_drop, List.length_cons]
  omega

/-- The deliveries of a source that hands out at most `size` bytes at a time, or
all of them at once if `size` is 0. -/
def deliver (size : Nat) (bytes : List UInt8) : List Delivery :=
  (pieces size bytes).map .block

end ClassOutline
