/-
  Proofs/ClassFile/Settled.lean --- how much of a file its class file depends on.

  A file is decoded from the bytes of its class file and from nothing else: a cut
  inside them is a truncation, wherever it falls, and what follows them is not
  looked at.  A failure for another reason than truncation stays as it is, however
  the file goes on.
-/
import ClassOutline.Proofs.ClassFile.RoundTrip
import ClassOutline.Proofs.Decoder.Settled

set_option autoImplicit false

namespace ClassOutline.ClassFile

open Decoder

/-- A class file is settled by its spelling, which cannot be cut. -/
theorem exists_spelling_settling_of_decode {bytes : List UInt8} {c : ClassFile}
    (h : decode bytes = .ok c) :
    ∃ latitude : Latitude, c.pool.SpelledBy latitude.textBytes ∧
      decoder.SettledAt bytes (c.spelling latitude).length ∧
      bytes = c.spelling latitude ++ (decoder.run bytes).rest := by
  obtain ⟨hc, latitude, htexts, hbytes⟩ := legible_and_spelled_of_decode h
  refine ⟨latitude, htexts, ?_, hbytes⟩
  rw [hbytes]
  exact settledAt_of_accepted (accepted_decoder.mpr ⟨hc, latitude, htexts, rfl⟩) _

/-- Decoding is settled by the bytes it takes, or it starves.  It is settled by
the spelling of the class file if there is one, and by what was read if it fails
for another reason than truncation. -/
theorem decode_settled_or_starved (bytes : List UInt8) :
    ((∃ n, decoder.SettledAt bytes n) ∨ decoder.Starved bytes) ∧
      (∀ c, decode bytes = .ok c → ∃ latitude : Latitude, c.pool.SpelledBy latitude.textBytes ∧
        bytes = c.spelling latitude ++ (decoder.run bytes).rest ∧
        (∀ tail, decode (c.spelling latitude ++ tail) = .ok c) ∧
        ∀ k < (c.spelling latitude).length,
          decode ((c.spelling latitude).take k) = .error .truncated) ∧
      ∀ e, e ≠ .truncated → decode bytes = .error e →
        ∀ tail, decode (bytes ++ tail) = .error e := by
  refine ⟨exists_settledAt_or_starved decoder bytes, ?_, ?_⟩
  · intro c h
    obtain ⟨latitude, htexts, hsettled, hbytes⟩ := exists_spelling_settling_of_decode h
    refine ⟨latitude, htexts, hbytes, ?_, ?_⟩
    · intro tail
      have happend := hsettled.run_append tail
      rw [hbytes, List.take_left, ← hbytes] at happend
      rw [decode, happend]
      exact h
    · intro k hk
      have hcut := hsettled.truncated k hk
      rw [hbytes, List.take_append_of_le_length (Nat.le_of_lt hk)] at hcut
      exact hcut
  · intro e he h tail
    have hresult : (decoder.run bytes).result ≠ .error .truncated := by
      intro htruncated
      rw [decode, htruncated] at h
      exact he (Except.error.inj h).symm
    obtain ⟨n, hsettled⟩ := exists_settledAt_of_result_ne hresult
    rw [decode, hsettled.result_append tail]
    exact h

end ClassOutline.ClassFile
