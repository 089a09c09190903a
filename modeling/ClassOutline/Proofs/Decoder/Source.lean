/-
  Proofs/Decoder/Source.lean --- what a source gives does not depend on its pieces.

  Of a source only two things count: the bytes that it delivers before its first
  fault, and that fault.  A read of so many bytes gives the next ones if there are as
  many.  If there are not, it fails, by the fault or because the source has ended.  How
  the bytes are cut, where an interruption falls, how far ahead they are fetched and in
  which way the buffer is filled makes no difference.
-/
import ClassOutline.Decoder.Source
import ClassOutline.Proofs.Decoder.Run

set_option autoImplicit false

namespace ClassOutline

open Decoder

/-! ## Prospects -/

/-- What is left of a source: the bytes up to its first fault, and that fault. -/
structure Prospect where
  bytes : List UInt8
  fault? : Option Fault

namespace Prospect

/-- Why there are no more bytes than those of a prospect. -/
def shortage (prospect : Prospect) : Fault := prospect.fault?.getD .ended

/-- What is left when some bytes were taken, or all if there are too few. -/
def drop (count : Nat) (prospect : Prospect) : Prospect :=
  ⟨prospect.bytes.drop count, prospect.fault?⟩

/-- Takes bytes from the front of a prospect.  When there are too few, the fault tells
why. -/
def take : Supply Prospect := fun count prospect =>
  (if count ≤ prospect.bytes.length then .ok (prospect.bytes.take count)
    else .error prospect.shortage.error,
    prospect.drop count)

theorem take_append (front back : List UInt8) (fault? : Option Fault) :
    take front.length ⟨front ++ back, fault?⟩ = (.ok front, ⟨back, fault?⟩) := by
  simp [take, drop]

theorem take_of_length_lt {count : Nat} {bytes : List UInt8} (h : bytes.length < count)
    (fault? : Option Fault) :
    take count ⟨bytes, fault?⟩ =
      (.error (fault?.getD .ended).error, drop count ⟨bytes, fault?⟩) := by
  simp only [take, if_neg (Nat.not_le.mpr h)]
  rfl

end Prospect

/-- What deliveries bring. -/
def Delivery.prospect : List Delivery → Prospect
  | [] => ⟨[], none⟩
  | .block piece :: deliveries =>
    ⟨piece ++ (prospect deliveries).bytes, (prospect deliveries).fault?⟩
  | .interrupted :: deliveries => prospect deliveries
  | .fault f :: _ => ⟨[], some f⟩

namespace Delivery

/-- What comes after some blocks comes after their bytes. -/
theorem prospect_map_block_append (blocks : List (List UInt8)) (deliveries : List Delivery) :
    prospect (blocks.map .block ++ deliveries) =
      ⟨blocks.flatten ++ (prospect deliveries).bytes, (prospect deliveries).fault?⟩ := by
  induction blocks with
  | nil => rfl
  | cons block blocks ih => simp [prospect, ih]

/-- An interruption is no delivery, wherever it falls. -/
theorem prospect_interrupted (before after : List Delivery) :
    prospect (before ++ .interrupted :: after) = prospect (before ++ after) := by
  induction before with
  | nil => rfl
  | cons delivery before ih =>
    cases delivery with
    | block bytes => simp only [List.cons_append, prospect, ih]
    | interrupted => exact ih
    | fault f => rfl

end Delivery

/-! ## Deliveries in pieces -/

theorem flatten_pieces (size : Nat) (bytes : List UInt8) : (pieces size bytes).flatten = bytes := by
  fun_induction pieces size bytes with
  | case1 => rfl
  | case2 b rest hsize => exact List.append_nil _
  | case3 b rest hsize ih => rw [List.flatten_cons, ih, List.take_append_drop]

theorem length_le_of_mem_pieces {size : Nat} (hsize : 0 < size) {bytes piece : List UInt8}
    (h : piece ∈ pieces size bytes) : piece.length ≤ size := by
  fun_induction pieces size bytes with
  | case1 => cases h
  | case2 b rest hzero => omega
  | case3 b rest hzero ih =>
    rcases List.mem_cons.mp h with rfl | h
    · exact List.length_take_le _ _
    · exact ih h

theorem prospect_deliver_append (size : Nat) (bytes : List UInt8) (deliveries : List Delivery) :
    Delivery.prospect (deliver size bytes ++ deliveries) =
      ⟨bytes ++ (Delivery.prospect deliveries).bytes, (Delivery.prospect deliveries).fault?⟩ := by
  rw [deliver, Delivery.prospect_map_block_append, flatten_pieces]

namespace Source

/-- What is left of a source, fetched or not. -/
def prospect (source : Source) : Prospect :=
  ⟨source.surplus ++ (Delivery.prospect source.deliveries).bytes,
    (Delivery.prospect source.deliveries).fault?⟩

/-! ## Reads -/

/-- What one read can come to, by what was left before and is left after it: some of the
bytes, or none because the source has ended or failed. -/
inductive Arrival : Prospect → Except Fault (List UInt8) → Prospect → Prop where
  | some {bytes rest : List UInt8} {fault? : Option Fault} (h : bytes ≠ []) :
    Arrival ⟨bytes ++ rest, fault?⟩ (.ok bytes) ⟨rest, fault?⟩
  | ended : Arrival ⟨[], none⟩ (.ok []) ⟨[], none⟩
  | failed (f : Fault) : Arrival ⟨[], some f⟩ (.error f) ⟨[], some f⟩

/-- Bytes that arrived and were not handed out are still left. -/
theorem Arrival.take {before after : Prospect} {bytes : List UInt8} {room : Nat}
    (h : Arrival before (.ok bytes) after) (hroom : 0 < room) :
    Arrival before (.ok (bytes.take room)) ⟨bytes.drop room ++ after.bytes, after.fault?⟩ := by
  cases h with
  | ended =>
    rw [List.take_nil, List.drop_nil]
    exact .ended
  | @some _ rest fault? hsome =>
    have hfront : bytes.take room ≠ [] := by
      rw [Ne, List.take_eq_nil_iff]
      simp [hsome, Nat.ne_of_gt hroom]
    have hbytes : bytes ++ rest = bytes.take room ++ (bytes.drop room ++ rest) := by
      rw [← List.append_assoc, List.take_append_drop]
    rw [hbytes]
    exact .some hfront

theorem arrival_request {room : Nat} (hroom : 0 < room) (deliveries : List Delivery) :
    Arrival (Delivery.prospect deliveries) (request room deliveries).1
      (Delivery.prospect (request room deliveries).2) := by
  fun_induction request room deliveries with
  | case1 => exact .ended
  | case2 deliveries ih => exact ih
  | case3 f deliveries => exact .failed f
  | case4 deliveries ih => exact ih
  | case5 b bytes deliveries h => exact .some (List.cons_ne_nil b bytes)
  -- There is no room for all of the block, and the rest of it stays a delivery.
  | case6 b bytes deliveries h =>
    have hwhole : Arrival (Delivery.prospect (.block (b :: bytes) :: deliveries))
        (.ok (b :: bytes)) (Delivery.prospect deliveries) := .some (List.cons_ne_nil b bytes)
    exact hwhole.take hroom

theorem arrival_read {room : Nat} (hroom : 0 < room) (source : Source) :
    Arrival source.prospect (source.read room).1 (source.read room).2.prospect := by
  obtain ⟨surplus, deliveries, ahead, offer⟩ := source
  cases surplus with
  -- As much as is asked for is asked of the source, or more, and what is over is kept.
  | nil =>
    have h := arrival_request (Nat.lt_of_lt_of_le hroom (Nat.le_max_left room ahead)) deliveries
    simp only [read]
    generalize request (max room ahead) deliveries = answer at h ⊢
    obtain ⟨f | fetched, rest⟩ := answer
    · exact h
    · exact h.take hroom
  | cons b bytes =>
    have hwhole : Arrival (prospect ⟨b :: bytes, deliveries, ahead, offer⟩) (.ok (b :: bytes))
        (Delivery.prospect deliveries) := .some (List.cons_ne_nil b bytes)
    exact hwhole.take hroom

theorem arrival_of_read {room : Nat} {source rest : Source} {answer : Except Fault (List UInt8)}
    (hroom : 0 < room) (h : source.read room = (answer, rest)) :
    Arrival source.prospect answer rest.prospect := by
  have harrival := arrival_read hroom source
  rwa [h] at harrival

theorem length_of_read {room : Nat} {source rest : Source} {bytes : List UInt8}
    (h : source.read room = (.ok bytes, rest)) : bytes.length ≤ room := by
  unfold read at h
  split at h
  · split at h
    · obtain ⟨hbytes, -⟩ := Prod.mk.inj h
      rw [← Except.ok.inj hbytes, List.length_take]
      exact Nat.min_le_left _ _
    · cases h
  · obtain ⟨hbytes, -⟩ := Prod.mk.inj h
    rw [← Except.ok.inj hbytes, List.length_take]
    exact Nat.min_le_left _ _

end Source

/-! ## Reads until enough -/

/-- What is had when no bytes are missing or the source has ended: it is a fault only
that some are missing and the source has failed. -/
def Prospect.gathered (missing : Nat) (prospect : Prospect) : Except Fault (List UInt8) :=
  match prospect.fault? with
  | none => .ok (prospect.bytes.take missing)
  | some f =>
    if missing ≤ prospect.bytes.length then .ok (prospect.bytes.take missing) else .error f

theorem Prospect.drop_append (missing : Nat) (bytes rest : List UInt8) (fault? : Option Fault) :
    drop (bytes.length + missing) ⟨bytes ++ rest, fault?⟩ = drop missing ⟨rest, fault?⟩ := by
  simp only [drop, List.drop_length_add_append]

section Gathered

variable {count : Nat} {bytes : List UInt8}

theorem Prospect.gathered_of_le (h : count ≤ bytes.length) (fault? : Option Fault) :
    gathered count ⟨bytes, fault?⟩ = .ok (bytes.take count) := by
  cases fault? with
  | none => rfl
  | some f => exact if_pos h

theorem Prospect.gathered_of_lt_of_ended (h : bytes.length < count) :
    gathered count ⟨bytes, none⟩ = .ok bytes :=
  congrArg Except.ok (List.take_of_length_le (Nat.le_of_lt h))

theorem Prospect.gathered_of_lt_of_failed (h : bytes.length < count) (f : Fault) :
    gathered count ⟨bytes, some f⟩ = .error f :=
  if_neg (Nat.not_le.mpr h)

end Gathered

/-- Bytes in front are had first. -/
theorem Prospect.gathered_append (missing : Nat) (bytes rest : List UInt8)
    (fault? : Option Fault) :
    gathered (bytes.length + missing) ⟨bytes ++ rest, fault?⟩ =
      (gathered missing ⟨rest, fault?⟩).map (bytes ++ ·) := by
  cases fault? with
  | none => simp [gathered, List.take_length_add_append, Except.map]
  | some f =>
    simp only [gathered, List.length_append, Nat.add_le_add_iff_left,
      List.take_length_add_append]
    split <;> rfl

namespace Source

/-- The run lemma of the loop: one read after the other, what arrives comes off the front
of what is left, until no bytes are missing, the source has ended or it has failed. -/
theorem gather_eq_gathered (room : Nat → Nat) (missing : Nat) (before : List UInt8)
    (source : Source) :
    (source.gather room missing before).1 =
        (source.prospect.gathered missing).map (before.reverse ++ ·) ∧
      (source.gather room missing before).2.prospect = source.prospect.drop missing := by
  fun_induction gather room missing before source with
  | case1 before source =>
    have hgathered : source.prospect.gathered 0 = .ok [] := by
      rw [Prospect.gathered]
      split <;> simp
    simp [hgathered, Except.map, Prospect.drop]
  | case2 before source missing f rest h =>
    have harrival := arrival_of_read (by omega) h
    generalize source.prospect = here, rest.prospect = there at harrival ⊢
    cases harrival
    simp [Prospect.gathered, Prospect.drop, Except.map]
  | case3 before source missing rest h =>
    have harrival := arrival_of_read (by omega) h
    generalize source.prospect = here, rest.prospect = there at harrival ⊢
    cases harrival with
    | some hsome => exact absurd rfl hsome
    | ended => simp [Prospect.gathered, Prospect.drop, Except.map]
  | case4 before source missing b bytes rest h ih =>
    have harrival := arrival_of_read (by omega) h
    have hlength : (b :: bytes).length ≤ missing + 1 :=
      Nat.le_trans (length_of_read h) (Nat.min_le_right _ _)
    have hmissing : missing.succ = (b :: bytes).length + (missing - bytes.length) := by
      rw [List.length_cons] at hlength ⊢
      omega
    generalize source.prospect = here, rest.prospect = there at harrival ih ⊢
    cases harrival with
    | @some _ rest fault? =>
      rw [hmissing, Prospect.gathered_append, Prospect.drop_append, ih.1, ih.2]
      refine ⟨?_, rfl⟩
      cases Prospect.gathered (missing - bytes.length) ⟨rest, fault?⟩ with
      | error f => rfl
      | ok found => simp [Except.map]

theorem exists_gather (room : Nat → Nat) (missing : Nat) (source : Source) :
    ∃ rest : Source, source.gather room missing [] = (source.prospect.gathered missing, rest) ∧
      rest.prospect = source.prospect.drop missing := by
  obtain ⟨hresult, hrest⟩ := source.gather_eq_gathered room missing []
  refine ⟨_, Prod.ext ?_ rfl, hrest⟩
  rw [hresult]
  cases source.prospect.gathered missing <;> rfl

/-- An exact read has the bytes asked for, or says why there are too few. -/
theorem exists_readExact (count : Nat) (source : Source) :
    ∃ rest : Source, source.readExact count =
        (if count ≤ source.prospect.bytes.length then .ok (source.prospect.bytes.take count)
          else .error source.prospect.shortage, rest) ∧
      rest.prospect = source.prospect.drop count := by
  obtain ⟨rest, hgather, hrest⟩ := source.exists_gather id count
  refine ⟨rest, ?_, hrest⟩
  rw [readExact, hgather]
  obtain ⟨bytes, fault?⟩ := source.prospect
  by_cases h : count ≤ bytes.length
  · have hfull : ¬ (bytes.take count).length < count := by
      rw [List.length_take]
      omega
    rw [Prospect.gathered_of_le h]
    simp only [if_neg hfull, if_pos h]
  · have hlt : bytes.length < count := Nat.not_le.mp h
    cases fault? with
    | none =>
      rw [Prospect.gathered_of_lt_of_ended hlt]
      simp only [if_pos hlt, if_neg h]
      rfl
    | some f =>
      rw [Prospect.gathered_of_lt_of_failed hlt, if_neg h]
      rfl

end Source

/-! ## Readers -/

/-- A read gives what the prospect of its source would give, and moves on as it would. -/
theorem Reader.fill_eq_take (count : Nat) (reader : Reader) :
    Prospect.take count reader.source.prospect =
      ((Reader.fill count reader).1, (Reader.fill count reader).2.source.prospect) := by
  obtain ⟨scratch, source⟩ := reader
  rw [Reader.fill, Prospect.take]
  by_cases hscratch : (scratch.take count).length = count
  -- The buffer is large enough.
  · obtain ⟨rest, hread, hrest⟩ := source.exists_readExact count
    rw [if_pos hscratch, hread]
    by_cases h : count ≤ source.prospect.bytes.length
    · have hlength : (source.prospect.bytes.take count).length = count :=
        List.length_take_of_le h
      have hfront : (source.prospect.bytes.take count ++ scratch.drop count).take count =
          source.prospect.bytes.take count := List.take_left' hlength
      simp only [if_pos h, hfront, hrest]
    · simp only [if_neg h, hrest]
  -- It is not, and takes what there is.
  · obtain ⟨rest, hread, hrest⟩ := source.exists_gather source.room count
    rw [if_neg hscratch, Source.readToEnd, hread]
    generalize source.prospect = here at hrest ⊢
    obtain ⟨bytes, fault?⟩ := here
    by_cases h : count ≤ bytes.length
    · have hlength : (bytes.take count).length = count := List.length_take_of_le h
      have hfull : ¬ (bytes.take count).length < count := Nat.not_lt.mpr (Nat.le_of_eq hlength.symm)
      simp only [Prospect.gathered_of_le h, if_pos h, if_neg hfull, hrest, List.take_take,
        Nat.min_self]
    · have hlt : bytes.length < count := Nat.not_le.mp h
      cases fault? with
      | none =>
        simp only [Prospect.gathered_of_lt_of_ended hlt, if_neg h, if_pos hlt, hrest]
        rfl
      | some f =>
        simp only [Prospect.gathered_of_lt_of_failed hlt, if_neg h, hrest]
        rfl

end ClassOutline
