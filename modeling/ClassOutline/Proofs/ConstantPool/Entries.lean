/-
  Proofs/ConstantPool/Entries.lean --- the enumeration of a pool and the entries that
  are remarked on while it is read.

  An entry is enumerated under the index that it is found under.  Reading counts the
  slots that it has filled, fillers among them, so it remarks on the entries under
  the same indices and in the same order.
-/
import ClassOutline.ConstantPool.Decode
import ClassOutline.Proofs.ConstantPool.Broken
import ClassOutline.Proofs.Decoder.Remarks
import Mathlib.Data.List.Basic

set_option autoImplicit false

namespace ClassOutline

open Decoder

/-! ## Enumeration -/

namespace ConstantPool

theorem toNat_index {i : Nat} (h : i < 65535) : (UInt16.ofNat (i + 1)).toNat = i + 1 :=
  UInt16.toNat_ofNat_of_lt' (Nat.succ_lt_succ h)

/-- The entries are enumerated under the indices that they are found under. -/
theorem mem_entries_iff {pool : ConstantPool} (hsize : pool.slots.size ≤ 65535) {index : UInt16}
    {entry : Entry} : (index, entry) ∈ pool.entries ↔ pool.get index = .ok entry := by
  rw [get_eq_ok_iff, entries, List.mem_filterMap]
  constructor
  · rintro ⟨⟨slot, i⟩, hslot, hfound⟩
    rw [List.mk_mem_zipIdx_iff_getElem?, Array.getElem?_toList] at hslot
    obtain ⟨found, rfl, hpair⟩ := Option.map_eq_some_iff.mp hfound
    obtain ⟨rfl, rfl⟩ := Prod.mk.inj hpair
    obtain ⟨hi, -⟩ := Array.getElem?_eq_some_iff.mp hslot
    have hindex := toNat_index (Nat.lt_of_lt_of_le hi hsize)
    have hne : UInt16.ofNat (i + 1) ≠ 0 := by
      intro hzero
      rw [hzero] at hindex
      exact absurd hindex (Nat.succ_ne_zero i).symm
    rw [entry?_of_ne_zero hne, hindex, Nat.add_sub_cancel, hslot]
    rfl
  · intro hentry
    by_cases hzero : index = 0
    · simp [hzero] at hentry
    · have hpos : index.toNat ≠ 0 := fun h => hzero (UInt16.toNat.inj h)
      have hnumber : index.toNat - 1 + 1 = index.toNat := Nat.sub_add_cancel (by omega)
      rw [entry?_of_ne_zero hzero, Option.join_eq_some_iff] at hentry
      refine ⟨(some entry, index.toNat - 1), ?_, ?_⟩
      · rwa [List.mk_mem_zipIdx_iff_getElem?, Array.getElem?_toList]
      · simp only [Option.map_some, hnumber, UInt16.ofNat_toNat]

/-! ## Remarks -/

/-- What is remarked on slots that are read after the `filled` first ones. -/
def slotRemarks (filled : Nat) (slots : List (Option Entry)) : List Remark :=
  (slots.zipIdx filled).filterMap fun (slot, i) => slot.map (.entryRead (i + 1))

section SlotRemarks

variable (filled : Nat) (entry : Entry) (more : List (Option Entry))

theorem slotRemarks_entry :
    slotRemarks filled (some entry :: more) =
      .entryRead (filled + 1) entry :: slotRemarks (filled + 1) more := by
  simp [slotRemarks, List.zipIdx_cons]

theorem slotRemarks_filler :
    slotRemarks filled (none :: more) = slotRemarks (filled + 1) more := by
  simp [slotRemarks, List.zipIdx_cons]

end SlotRemarks

/-- What is said of the slots is said of the entries, under their indices. -/
theorem slotRemarks_eq {pool : ConstantPool} (hsize : pool.slots.size ≤ 65535) :
    slotRemarks 0 pool.slots.toList =
      pool.entries.map fun (index, entry) => .entryRead index.toNat entry := by
  rw [entries, List.map_filterMap, slotRemarks]
  refine List.filterMap_congr ?_
  rintro ⟨slot, i⟩ hslot
  rw [List.mk_mem_zipIdx_iff_getElem?, Array.getElem?_toList] at hslot
  obtain ⟨hi, -⟩ := Array.getElem?_eq_some_iff.mp hslot
  cases slot with
  | none => rfl
  | some entry =>
    have hindex := toNat_index (Nat.lt_of_lt_of_le hi hsize)
    simp only [Option.map_some, hindex]

end ConstantPool

/-! ## Reading -/

theorem EntryKind.silent_decodeBody (kind : EntryKind) : kind.decodeBody.Silent := by
  cases kind with
  | utf8 =>
    exact silent_word16.ensures_bind fun length =>
      (silent_bytes length.toNat).ensures_bind fun _ => silent_done _
  | integer | float => exact silent_word32.ensures_bind fun _ => silent_done _
  | long | double => exact silent_word64.ensures_bind fun _ => silent_done _
  | classRef | string | methodType => exact silent_word16.ensures_bind fun _ => silent_done _
  | fieldRef | methodRef | interfaceMethodRef | nameAndType | invokeDynamic =>
    exact silent_word16.ensures_bind fun _ => silent_word16.ensures_bind fun _ => silent_done _
  | methodHandle =>
    exact silent_byte.ensures_bind fun _ => silent_word16.ensures_bind fun _ => silent_done _

/-- Reading an entry makes no remark; its place is not known there. -/
theorem Entry.silent_decode : Entry.decode.Silent := by
  refine silent_byte.ensures_bind fun tag => ?_
  cases EntryKind.ofTag? tag with
  | none => trivial
  | some kind => exact kind.silent_decodeBody

namespace ConstantPool

/-- The run lemma of the slots: the entries among those that are added to the ones
before are remarked on, each under the index of its slot. -/
theorem ensures_decodeSlots (free filled : Nat) (before : List (Option Entry)) :
    (decodeSlots free filled before).Ensures fun slots remarks =>
      ∃ more, slots = before.reverse ++ more ∧ more.length = free ∧
        remarks = slotRemarks filled more := by
  induction free, filled, before using decodeSlots.induct with
  | case1 filled before => exact ⟨[], by simp, rfl, rfl⟩
  | case2 filled before =>
    refine Entry.silent_decode.ensures_bind fun entry => ?_
    exact ⟨[some entry], by simp, rfl, (slotRemarks_entry filled entry []).symm⟩
  | case3 free filled before ihWide ihNarrow =>
    refine Entry.silent_decode.ensures_bind fun entry => ensures_remark_bind ?_
    split
    · refine (ihWide entry).imp ?_
      rintro _ _ ⟨more, rfl, hlength, rfl⟩
      refine ⟨some entry :: none :: more, by simp, by simp [hlength], ?_⟩
      rw [slotRemarks_entry, slotRemarks_filler]
    · refine (ihNarrow entry).imp ?_
      rintro _ _ ⟨more, rfl, hlength, rfl⟩
      refine ⟨some entry :: more, by simp, by simp [hlength], ?_⟩
      rw [slotRemarks_entry]

/-- Reading a pool remarks on its entries as they are enumerated. -/
theorem ensures_decode :
    ConstantPool.decode.Ensures fun pool remarks =>
      remarks = pool.entries.map fun (index, entry) => .entryRead index.toNat entry := by
  refine silent_word16.ensures_bind fun count => ?_
  rw [bind_eq_bind, ensures_bind]
  refine (ensures_decodeSlots (count.toNat - 1) 0 []).imp ?_
  rintro slots _ ⟨more, hmore, hlength, rfl⟩
  obtain rfl : slots = more := hmore
  have hcount : count.toNat < 65536 := count.toNat_lt
  have hsize : slots.toArray.size ≤ 65535 := by
    rw [List.size_toArray]
    omega
  have hremarks := @slotRemarks_eq ⟨slots.toArray⟩ hsize
  simpa [Ensures] using hremarks

end ConstantPool

end ClassOutline
