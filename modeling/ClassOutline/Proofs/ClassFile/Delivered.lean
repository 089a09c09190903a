/-
  Proofs/ClassFile/Delivered.lean --- class files from sources.

  Decoding does not depend on how a source delivers its bytes, and a failure of the
  source shows exactly when decoding gets to it: if the bytes before it do not settle
  how decoding ends.
-/
import ClassOutline.Proofs.ClassFile.RoundTrip
import ClassOutline.Proofs.Decoder.Delivered

set_option autoImplicit false

namespace ClassOutline.ClassFile

open Decoder

/-- What is decoded from a source depends on its bytes up to its first fault, and on that
fault.  Blocks of any size, an interruption anywhere, bytes that were fetched ahead and
the room that a read offers make no difference.  A source that fails after `k` bytes of
a file, by a failure of its own or by saying that it has ended, decodes as the whole
file does if it is settled by these.  Otherwise the failure is that of the source, with
its own text, or a truncation.  An attribute that was read is settled, also if its
payload ends too early inside; one that was not is met by the failure, even if it could
not have been read however the file went on. -/
theorem decodeFrom_of_prospect :
    (∀ (data : List UInt8) (source : Source), source.prospect = ⟨data, none⟩ →
      decodeFrom source = decode data) ∧
    (∀ (size : Nat) (data : List UInt8),
      decodeFrom (.ofDeliveries (deliver size data)) = decode data ∧
        (0 < size → ∀ piece, .block piece ∈ deliver size data → piece.length ≤ size)) ∧
    (∀ (source : Source) (before after : List Delivery),
      decodeFrom { source with deliveries := before ++ .interrupted :: after } =
        decodeFrom { source with deliveries := before ++ after }) ∧
    (∀ (data : List UInt8) (k : Nat) (f : Fault) (source : Source), k < data.length →
      source.prospect = ⟨data.take k, some f⟩ →
      ((∃ n ≤ k, decoder.SettledAt data n) → decodeFrom source = decode data) ∧
        ((¬ ∃ n ≤ k, decoder.SettledAt data n) → decodeFrom source = .error f.error)) ∧
    (∀ (size : Nat) (data : List UInt8) (f : Fault) (later : List Delivery),
      (Source.ofDeliveries (deliver size data ++ .fault f :: later)).prospect = ⟨data, some f⟩) ∧
    Fault.ended.error = .truncated ∧
    ∀ reason, (Fault.failed reason).error = .sourceFailed reason ∧
      (Fault.failed reason).error.message = reason := by
  have hwhole : ∀ (data : List UInt8) (source : Source), source.prospect = ⟨data, none⟩ →
      decodeFrom source = decode data :=
    fun data source hsource => result_runOn_of_no_fault hsource
  refine ⟨hwhole, ?_, ?_, ?_, ?_, rfl, fun reason => ⟨rfl, rfl⟩⟩
  · intro size data
    constructor
    · refine hwhole data _ ?_
      have hdeliver := prospect_deliver_append size data []
      rw [List.append_nil, Delivery.prospect, List.append_nil] at hdeliver
      exact hdeliver
    · intro hsize piece hpiece
      obtain ⟨piece', hmem, hpiece'⟩ := List.mem_map.mp hpiece
      cases hpiece'
      exact length_le_of_mem_pieces hsize hmem
  · intro source before after
    rw [decodeFrom, decodeFrom, result_runOn, result_runOn, Source.prospect, Source.prospect,
      Delivery.prospect_interrupted]
  · intro data k f source hk hsource
    exact result_runOn_of_cut (Nat.le_of_lt hk) hsource
  · intro size data f later
    have hdeliver := prospect_deliver_append size data (.fault f :: later)
    rw [Delivery.prospect, List.append_nil] at hdeliver
    exact hdeliver

/-- The sample class file, and sources of it that fail behind it and inside. -/
theorem decodeFrom_sampleBytes :
    (0 < 7 ∧ (∀ piece, .block piece ∈ deliver 7 sampleBytes → piece.length ≤ 7) ∧
      (Source.ofDeliveries [.interrupted, .block sampleBytes]).prospect = ⟨sampleBytes, none⟩ ∧
      decodeFrom (.ofDeliveries [.interrupted, .block sampleBytes]) = .ok sampleClass) ∧
    (129 < sampleBytes.length ∧ (∃ n ≤ 129, decoder.SettledAt sampleBytes n) ∧
      decodeFrom (.ofDeliveries (deliver 7 (sampleBytes.take 129) ++ [.fault (.failed "reset")])) =
        .ok sampleClass) ∧
    60 < sampleBytes.length ∧ (¬ ∃ n ≤ 60, decoder.SettledAt sampleBytes n) ∧
      decodeFrom (.ofDeliveries (deliver 7 (sampleBytes.take 60) ++ [.fault (.failed "reset")])) =
        .error (.sourceFailed "reset") := by
  obtain ⟨hwhole, hpieces, -, hcut, hsource, -, -⟩ := decodeFrom_of_prospect
  have hlength : sampleBytes.length = 130 := by
    decide +kernel
  have hsettledAt : ∀ n, decoder.SettledAt sampleBytes n → n = 129 := by
    intro n hsettled
    have hrest : (decoder.run sampleBytes).rest.length = 1 := by
      decide +kernel
    rw [hsettled.rest, List.length_drop, hlength] at hrest
    omega
  have hsettled : ∃ n ≤ 129, decoder.SettledAt sampleBytes n := by
    obtain ⟨n, hsettled⟩ : ∃ n, decoder.SettledAt sampleBytes n := by
      refine exists_settledAt_of_result_ne ?_
      rw [← decode, decode_sampleBytes]
      simp
    exact ⟨n, Nat.le_of_eq (hsettledAt n hsettled), hsettled⟩
  have hunsettled : ¬ ∃ n ≤ 60, decoder.SettledAt sampleBytes n := by
    rintro ⟨n, hn, hsettled⟩
    have hn' := hsettledAt n hsettled
    omega
  have hbehind : 129 < sampleBytes.length := by
    omega
  have hinside : 60 < sampleBytes.length := by
    omega
  have hprospect : (Source.ofDeliveries [.interrupted, .block sampleBytes]).prospect =
      ⟨sampleBytes, none⟩ := by
    rw [Source.prospect, Source.ofDeliveries, Delivery.prospect, Delivery.prospect,
      Delivery.prospect, List.nil_append, List.append_nil]
  rw [← decode_sampleBytes]
  exact ⟨⟨Nat.succ_pos 6, (hpieces 7 sampleBytes).2 (Nat.succ_pos 6), hprospect,
      hwhole _ _ hprospect⟩,
    ⟨hbehind, hsettled, (hcut _ _ _ _ hbehind (hsource 7 _ _ [])).1 hsettled⟩,
    hinside, hunsettled, (hcut _ _ _ _ hinside (hsource 7 _ _ [])).2 hunsettled⟩

end ClassOutline.ClassFile
