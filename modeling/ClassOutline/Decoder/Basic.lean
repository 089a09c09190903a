/-
  Decoder/Basic.lean --- computations that consume bytes.

  A decoder is a tree of demands: it is finished, has failed, needs some bytes
  before it can go on, or remarks on something it met.  Nothing in it says where
  the bytes come from.  `drive` runs a decoder on any supply of bytes, so whatever
  is proved of all trees holds of every decoder and of every supply at once.
-/
import ClassOutline.Bytes
import ClassOutline.Error

set_option autoImplicit false

namespace ClassOutline

/-! ## Decoders -/

/-- What a decoder remarks on while it runs. -/
inductive Remark where
  /-- The version of the class file. -/
  | versionRead (major minor : UInt16)
  /-- A constant pool entry, with the index of its slot. -/
  | entryRead (index : Nat) (entry : Entry)
  /-- An attribute, by its name and the length of its payload. -/
  | attributeRead (name : String) (length : Nat)
  deriving DecidableEq, Repr

/-- A computation that consumes bytes and answers with an `α`. -/
inductive Decoder (α : Type) where
  | done (answer : α)
  | fail (error : DecodeError)
  /-- Goes on when it is given exactly `count` bytes. -/
  | need (count : Nat) (next : List UInt8 → Decoder α)
  | note (remark : Remark) (next : Decoder α)

namespace Decoder

variable {α β : Type}

/-- Runs a decoder and then the one that its answer chooses. -/
def bind : Decoder α → (α → Decoder β) → Decoder β
  | .done a, f => f a
  | .fail e, _ => .fail e
  | .need count next, f => .need count fun bytes => (next bytes).bind f
  | .note remark next, f => .note remark (next.bind f)

instance : Monad Decoder where
  pure := .done
  bind := bind

/-- Answers with what was looked up, or fails as the look-up did. -/
def ofExcept : Except DecodeError α → Decoder α
  | .ok a => .done a
  | .error e => .fail e

/-- Makes a remark. -/
def remark (r : Remark) : Decoder Unit := .note r (.done ())

/-- Takes `count` bytes. -/
def bytes (count : Nat) : Decoder (List UInt8) := .need count .done

/-- Takes one byte. -/
def byte : Decoder UInt8 := .need 1 fun bytes => .done (UInt8.ofNat (Bytes.toNat bytes))

/-- Takes a 16-bit word. -/
def word16 : Decoder UInt16 := .need 2 fun bytes => .done (Bytes.word16 bytes)

/-- Takes a 32-bit word. -/
def word32 : Decoder UInt32 := .need 4 fun bytes => .done (Bytes.word32 bytes)

/-- Takes a 64-bit word. -/
def word64 : Decoder UInt64 := .need 8 fun bytes => .done (Bytes.word64 bytes)

/-- Runs a decoder `count` times, after the answers that were had before, last
one first. -/
def times (item : Decoder α) : (count : Nat) → (before : List α) → Decoder (List α)
  | 0, before => .done before.reverse
  | count + 1, before => item.bind fun a => item.times count (a :: before)

/-- A 16-bit count, and then as many items. -/
def counted (item : Decoder α) : Decoder (List α) :=
  word16.bind fun count => item.times count.toNat []

/-! ## Running -/

/-- How a run ended: what was remarked on, the answer or the failure, and what is
left of the supply. -/
structure Outcome (σ α : Type) where
  remarks : List Remark
  result : Except DecodeError α
  rest : σ

/-- A supply of bytes in states `σ`: gives exactly the number of bytes asked for,
or says why it cannot. -/
abbrev Supply (σ : Type) : Type := Nat → σ → Except DecodeError (List UInt8) × σ

/-- Runs a decoder on a supply, after the remarks that were made before, last one
first. -/
def drive {σ : Type} (supply : Supply σ) : Decoder α → σ → List Remark → Outcome σ α
  | .done a, s, remarks => ⟨remarks.reverse, .ok a, s⟩
  | .fail e, s, remarks => ⟨remarks.reverse, .error e, s⟩
  | .note r next, s, remarks => next.drive supply s (r :: remarks)
  | .need count next, s, remarks =>
    match supply count s with
    | (.ok bytes, s') => (next bytes).drive supply s' remarks
    | (.error e, s') => ⟨remarks.reverse, .error e, s'⟩

/-- Takes bytes from the front of a list.  When there are too few, nothing is
left of the list. -/
def takeBytes : Supply (List UInt8) := fun count bytes =>
  let front := bytes.take count
  if front.length = count then (.ok front, bytes.drop count) else (.error .truncated, [])

/-- Runs a decoder on a list of bytes. -/
def run (d : Decoder α) (bytes : List UInt8) : Outcome (List UInt8) α :=
  d.drive takeBytes bytes []

end Decoder

end ClassOutline
