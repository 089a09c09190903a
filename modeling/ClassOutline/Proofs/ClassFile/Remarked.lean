/-
  Proofs/ClassFile/Remarked.lean --- the log of a class file.

  What decoding hands to the log tells what it has read and in which order: the
  version, the entries of the pool as its dump lists them, and the attributes.
  When a file is cut, its log is cut.
-/
import ClassOutline.Log
import ClassOutline.Proofs.ClassFile.RoundTrip
import ClassOutline.Proofs.ConstantPool.Entries
import Mathlib.Data.List.Forall2

set_option autoImplicit false

namespace ClassOutline

open Decoder

variable {pool : ConstantPool}

/-! ## Attributes -/

/-- What is remarked on an attribute whose name can be looked up. -/
def Attribute.remarks (pool : ConstantPool) (a : Attribute) : List Remark :=
  match pool.utf8 a.nameIndex with
  | .ok name => [.attributeRead name a.payload.length]
  | .error _ => []

theorem Attribute.ensures_decode :
    (Attribute.decode pool).Ensures fun a remarks => remarks = a.remarks pool := by
  refine silent_word16.ensures_bind fun nameIndex => silent_word32.ensures_bind fun length =>
    (silent_bytes length.toNat).ensures_bind fun payload => ?_
  refine ensures_ofExcept_bind fun name hname => ensures_remark_bind ?_
  refine ensures_ofExcept_bind fun annotations _ => ?_
  simp [Ensures, Attribute.remarks, hname]

theorem Attribute.ensures_decodeAll :
    (Attribute.decodeAll pool).Ensures fun attributes remarks =>
      remarks = attributes.flatMap (Attribute.remarks pool) :=
  ensures_counted Attribute.ensures_decode

/-- Whether a record tells of an attribute by its name and the length of its
payload. -/
def Attribute.ToldBy (pool : ConstantPool) (record : Log.Record) (a : Attribute) : Prop :=
  ∃ name, pool.utf8 a.nameIndex = .ok name ∧
    record = ⟨.trace, Log.decoderTarget, s!"attribute {name} ({a.payload.length} bytes)"⟩

/-- Attributes whose names can be looked up are told of one by one. -/
theorem Attribute.forall₂_toldBy {attributes : List Attribute}
    (h : ∀ a ∈ attributes, a.Named pool) :
    List.Forall₂ (Attribute.ToldBy pool)
      ((attributes.flatMap (Attribute.remarks pool)).map Log.ofRemark) attributes := by
  induction attributes with
  | nil => exact .nil
  | cons a rest ih =>
    obtain ⟨⟨name, hname⟩, hrest⟩ := List.forall_mem_cons.mp h
    have hremarks : a.remarks pool = [.attributeRead name a.payload.length] := by
      rw [Attribute.remarks, hname]
    rw [List.flatMap_cons, hremarks]
    exact .cons ⟨name, hname, rfl⟩ (ih hrest)

/-! ## Members and indices -/

theorem silent_requireUtf8 (index : UInt16) : (requireUtf8 pool index).Silent :=
  (silent_ofExcept _).ensures_bind fun _ => silent_done ()

theorem AccessFlags.silent_decode (d : Declaration) : (AccessFlags.decode d).Silent :=
  silent_word16.ensures_bind fun _ => silent_done _

theorem Member.ensures_decode {d : Declaration} :
    (Member.decode d pool).Ensures fun member remarks =>
      remarks = member.attributes.flatMap (Attribute.remarks pool) := by
  refine (AccessFlags.silent_decode d).ensures_bind fun access =>
    silent_word16.ensures_bind fun nameIndex => silent_word16.ensures_bind fun descriptorIndex =>
    (silent_requireUtf8 nameIndex).ensures_bind fun _ =>
    (silent_requireUtf8 descriptorIndex).ensures_bind fun _ => ?_
  rw [bind_eq_bind, ensures_bind]
  refine Attribute.ensures_decodeAll.imp ?_
  rintro attributes _ rfl
  exact List.append_nil _

theorem silent_decodeMagic : decodeMagic.Silent := by
  refine silent_word32.ensures_bind fun magic => ?_
  split
  · exact silent_done _
  · trivial

theorem silent_decodeClassIndex : (decodeClassIndex pool).Silent :=
  silent_word16.ensures_bind fun _ => (silent_ofExcept _).ensures_bind fun _ => silent_done _

theorem silent_decodeSuperClassIndex : (decodeSuperClassIndex pool).Silent := by
  refine silent_word16.ensures_bind fun index => ?_
  split
  · exact silent_done _
  · exact (silent_ofExcept _).ensures_bind fun _ => silent_done _

/-! ## Class files -/

namespace ClassFile

/-- What is remarked on a class file: the version, the entries of the pool, and the
attributes of the fields, of the methods and of the class. -/
def remarks (c : ClassFile) : List Remark :=
  .versionRead c.majorVersion c.minorVersion ::
    ((c.pool.entries.map fun (index, entry) => .entryRead index.toNat entry) ++
      c.everyAttribute.flatMap (Attribute.remarks c.pool))

theorem ensures_decoder : decoder.Ensures fun c remarks => remarks = c.remarks := by
  refine silent_decodeMagic.ensures_bind fun magic =>
    silent_word16.ensures_bind fun minorVersion => silent_word16.ensures_bind fun majorVersion =>
    ensures_remark_bind ?_
  rw [bind_eq_bind, ensures_bind]
  refine ConstantPool.ensures_decode.imp ?_
  rintro pool _ rfl
  refine (AccessFlags.silent_decode .type).ensures_bind fun access =>
    silent_decodeClassIndex.ensures_bind fun thisClass =>
    silent_decodeSuperClassIndex.ensures_bind fun superClass =>
    silent_decodeClassIndex.counted.ensures_bind fun interfaces => ?_
  -- Fields, methods and attributes are left, and each of them adds remarks of its own.
  rw [bind_eq_bind, ensures_bind]
  refine (ensures_counted Member.ensures_decode).imp ?_
  rintro fields _ rfl
  rw [bind_eq_bind, ensures_bind]
  refine (ensures_counted Member.ensures_decode).imp ?_
  rintro methods _ rfl
  rw [bind_eq_bind, ensures_bind]
  refine Attribute.ensures_decodeAll.imp ?_
  rintro attributes _ rfl
  simp [Ensures, remarks, everyAttribute, List.flatMap_assoc]

/-- The records that decoding hands to the log. -/
def records (bytes : List UInt8) : List Log.Record :=
  (decoder.run bytes).remarks.map Log.ofRemark

/-- A class file that was decoded has been told of: its version, its pool as the dump
lists it, each entry with the index that it is found under, and its attributes in
the order of the file.  Of the front of any input the first records are made that
are made of all of it. -/
theorem records_of_decode_and_of_front :
    (∀ bytes c, decode bytes = .ok c → ∃ entryRecords attributeRecords,
      records bytes =
        ⟨.debug, Log.decoderTarget, s!"class file version {c.majorVersion}.{c.minorVersion}"⟩ ::
          (entryRecords ++ attributeRecords) ∧
      entryRecords = (c.pool.entries.map fun (index, entry) =>
        ⟨.trace, Log.decoderTarget, s!"#{index.toNat} = {entry.text}"⟩) ∧
      String.join (entryRecords.map fun record => record.message ++ "\n") = c.pool.dump ∧
      (∀ index entry, (index, entry) ∈ c.pool.entries ↔ c.pool.get index = .ok entry) ∧
      List.Forall₂ (Attribute.ToldBy c.pool) attributeRecords c.everyAttribute) ∧
    ∀ front bytes, front <+: bytes → records front <+: records bytes := by
  constructor
  · intro bytes c h
    obtain ⟨hlegible, -⟩ := legible_and_spelled_of_decode h
    have hsize : c.pool.slots.size ≤ 65535 := Nat.le_succ_of_le hlegible.fits.slots
    have hrecords : records bytes = c.remarks.map Log.ofRemark :=
      congrArg (List.map Log.ofRemark) (ensures_decoder.run h)
    refine ⟨_, (c.everyAttribute.flatMap (Attribute.remarks c.pool)).map Log.ofRemark, ?_, rfl,
      ?_, ?_, ?_⟩
    · rw [hrecords, remarks, List.map_cons, List.map_append, List.map_map]
      rfl
    · rw [List.map_map]
      rfl
    · intro index entry
      exact ConstantPool.mem_entries_iff hsize
    · exact Attribute.forall₂_toldBy hlegible.named.attributes
  · intro front bytes hfront
    exact (isPrefix_remarks_run decoder hfront).map Log.ofRemark

/-- The log of the sample class file, and that of its first half.  No entry is told of
under the second index of a number of 64 bits. -/
theorem records_sampleBytes :
    decode sampleBytes = .ok sampleClass ∧
      (∃ entryRecords attributeRecords,
        records sampleBytes =
          ⟨.debug, Log.decoderTarget, "class file version 52.0"⟩ ::
            (entryRecords ++ attributeRecords) ∧
        entryRecords = (samplePool.entries.map fun (index, entry) =>
          ⟨.trace, Log.decoderTarget, s!"#{index.toNat} = {entry.text}"⟩) ∧
        samplePool.entries.map Prod.fst = [1, 2, 3, 4, 5, 7, 8] ∧
        String.join (entryRecords.map fun record => record.message ++ "\n") = samplePool.dump ∧
        List.Forall₂ (Attribute.ToldBy samplePool) attributeRecords
          [sampleAttribute, ⟨4, [7], none⟩]) ∧
      sampleBytes.take 60 <+: sampleBytes ∧
      records (sampleBytes.take 60) <+: records sampleBytes := by
  obtain ⟨entryRecords, attributeRecords, hrecords, hentries, hdump, -, hattributes⟩ :=
    records_of_decode_and_of_front.1 _ _ decode_sampleBytes
  have hfront : sampleBytes.take 60 <+: sampleBytes := List.take_prefix 60 sampleBytes
  exact ⟨decode_sampleBytes,
    ⟨entryRecords, attributeRecords, hrecords, hentries, rfl, hdump, hattributes⟩, hfront,
    records_of_decode_and_of_front.2 _ _ hfront⟩

end ClassFile

end ClassOutline
