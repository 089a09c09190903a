/-
  Proofs/ClassFile/Repeated.lean --- class files read one after the other.

  A cursor that has read class files, or parts of them, before reads on as a new
  one over the bytes that are left would.  So files in a row are read as they are
  read alone, and behind the last of them there is nothing to read.
-/
import ClassOutline.Proofs.ClassFile.RoundTrip
import ClassOutline.Proofs.Decoder.Cursor

set_option autoImplicit false

namespace ClassOutline.ClassFile

open Decoder

theorem run_decoder_nil : decoder.run [] = ⟨[], .error .truncated, []⟩ := rfl

/-- A file that is decoded and used up is accepted. -/
theorem accepted_of_decode {file : List UInt8} {c : ClassFile} (h : decode file = .ok c)
    (hrest : (decoder.run file).rest = []) : decoder.Accepted c file := by
  obtain ⟨front, hfile, haccepted⟩ := accepted_of_run h
  rw [hrest, List.append_nil] at hfile
  rwa [hfile]

/-- Decoding through one cursor is decoding through a new cursor each time: every
call ends as it would on the bytes that the calls before have left, whatever the
buffer holds.  Files that are used up one by one are decoded one by one, and every
call after them finds too few bytes. -/
theorem decodeEach_as_if_new :
    (∀ (times : Nat) (cursor : Cursor),
      (decoder.runsThrough times cursor).map (Outcome.seen Cursor.bytes) =
        (decoder.runsAfresh times cursor.bytes).map (Outcome.seen Cursor.bytes)) ∧
    ∀ files : List (List UInt8),
      (∀ file ∈ files, (∃ c, decode file = .ok c) ∧ (decoder.run file).rest = []) →
      ∀ extra, decodeEach (files.length + extra) files.flatten =
        files.map decode ++ List.replicate extra (.error .truncated) := by
  refine ⟨seen_runsThrough decoder, ?_⟩
  intro files hfiles extra
  have haccepted : ∀ file ∈ files, ∃ c, decoder.Accepted c file := by
    intro file hfile
    obtain ⟨⟨c, hdecode⟩, hrest⟩ := hfiles file hfile
    exact ⟨c, accepted_of_decode hdecode hrest⟩
  have hbytes : (Cursor.ofBytes files.flatten).bytes = files.flatten ++ [] :=
    (List.append_nil _).symm
  obtain ⟨last, hlast, hresults⟩ := results_runsThrough_flatten haccepted [] extra hbytes
  rw [results_runsThrough_of_nil run_decoder_nil extra hlast] at hresults
  exact hresults

/-- The sample class file twice, and a call too many. -/
theorem decodeEach_sampleBytes :
    ((∃ c, decode sampleBytes.dropLast = .ok c) ∧ (decoder.run sampleBytes.dropLast).rest = []) ∧
      decodeEach 3 [sampleBytes.dropLast, sampleBytes.dropLast].flatten =
        [.ok sampleClass, .ok sampleClass, .error .truncated] := by
  have hdecode : decode sampleBytes.dropLast = .ok sampleClass := by
    decide +kernel
  have hrest : (decoder.run sampleBytes.dropLast).rest = [] := by
    decide +kernel
  have hfiles : ∀ file ∈ [sampleBytes.dropLast, sampleBytes.dropLast],
      (∃ c, decode file = .ok c) ∧ (decoder.run file).rest = [] := by
    simp only [List.forall_mem_cons]
    exact ⟨⟨⟨_, hdecode⟩, hrest⟩, ⟨⟨_, hdecode⟩, hrest⟩, by simp⟩
  have hresults := decodeEach_as_if_new.2 _ hfiles 1
  rw [List.map_cons, List.map_cons, hdecode] at hresults
  exact ⟨⟨⟨_, hdecode⟩, hrest⟩, hresults⟩

end ClassOutline.ClassFile
