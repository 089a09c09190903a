/-
  Proofs/ConstantPool/Views.lean --- a pool looked up, enumerated and counted.

  The enumeration of a pool is the look-up read as a list: the pairs of an index and the
  entry under it, by strictly ascending index.  A pool that was read has fillers only
  behind entries of 64 bits, so within its count a look-up fails just behind such an
  entry.
-/
import ClassOutline.Proofs.ConstantPool.Accepted
import ClassOutline.Proofs.ConstantPool.Entries

set_option autoImplicit false

namespace ClassOutline.ConstantPool

open Decoder

variable {pool : ConstantPool}

/-! ## Enumeration -/

/-- The slots, each with its number, stand by ascending number. -/
theorem pairwise_zipIdx (slots : List (Option Entry)) :
    slots.zipIdx.Pairwise fun a b => a.2 < b.2 := by
  have hnumbers : (slots.zipIdx.map Prod.snd).Pairwise (· < ·) := by
    rw [List.zipIdx_map_snd]
    exact List.pairwise_lt_range'
  exact List.pairwise_map.mp hnumbers

/-- No index wraps around, so the indices ascend as the slots do. -/
theorem pairwise_entries (hsize : pool.slots.size ≤ 65535) :
    (pool.entries.map fun pair => pair.1.toNat).Pairwise (· < ·) := by
  have hnumber : ∀ {slot i}, (slot, i) ∈ pool.slots.toList.zipIdx →
      (UInt16.ofNat (i + 1)).toNat = i + 1 := by
    intro slot i hmem
    rw [List.mk_mem_zipIdx_iff_getElem?, Array.getElem?_toList] at hmem
    obtain ⟨hi, -⟩ := Array.getElem?_eq_some_iff.mp hmem
    exact toNat_index (Nat.lt_of_lt_of_le hi hsize)
  rw [List.pairwise_map, entries, List.pairwise_filterMap]
  refine (pairwise_zipIdx pool.slots.toList).imp_of_mem ?_
  rintro ⟨slot, i⟩ ⟨slot', j⟩ hmem hmem' hlt pair hfound pair' hfound'
  obtain ⟨found, -, rfl⟩ := Option.map_eq_some_iff.mp hfound
  obtain ⟨found', -, rfl⟩ := Option.map_eq_some_iff.mp hfound'
  rw [hnumber hmem, hnumber hmem']
  exact Nat.succ_lt_succ hlt

theorem toNat_lt_count_of_get {index : UInt16} {entry : Entry}
    (h : pool.get index = .ok entry) : index.toNat < pool.count := by
  have hentry := get_eq_ok_iff.mp h
  by_cases hzero : index = 0
  · rw [hzero, count]
    exact Nat.succ_pos _
  · rw [entry?_of_ne_zero hzero, Option.join_eq_some_iff] at hentry
    obtain ⟨hlt, -⟩ := Array.getElem?_eq_some_iff.mp hentry
    rw [count]
    omega

/-- The slots without the fillers are the entries, in the same order. -/
theorem filterMap_slots (pool : ConstantPool) :
    pool.slots.toList.filterMap id = pool.entries.map Prod.snd := by
  have hslots : pool.slots.toList = pool.slots.toList.zipIdx.map Prod.fst :=
    List.zipIdx_map_fst 0 _ |>.symm
  rw [entries, List.map_filterMap]
  conv_lhs => rw [hslots, List.filterMap_map]
  refine List.filterMap_congr ?_
  rintro ⟨slot, i⟩ -
  cases slot with
  | none => rfl
  | some entry => rfl

/-- An index that is not enumerated is out of range. -/
theorem get_of_not_mem_entries (hsize : pool.slots.size ≤ 65535) {index : UInt16}
    (h : ∀ entry, (index, entry) ∉ pool.entries) :
    pool.get index = .error (.indexOutOfRange index) := by
  refine get_eq_error_iff.mpr ⟨?_, rfl⟩
  refine Option.eq_none_iff_forall_ne_some.mpr ?_
  intro entry hentry
  exact h entry ((mem_entries_iff hsize).mpr (get_eq_ok_iff.mpr hentry))

/-! ## Pools that were read -/

theorem isWide_iff {entry : Entry} :
    entry.isWide = true ↔ (∃ value, entry = .long value) ∨ ∃ bits, entry = .double bits := by
  cases entry <;> simp [Entry.isWide, Entry.kind, EntryKind.isWide]

/-- The slot before that of an index holds an entry of 64 bits just if the look-up of the
index before finds one. -/
theorem followsWide_iff {index : UInt16} (hpos : 1 ≤ index.toNat) :
    pool.FollowsWide (index.toNat - 1) ↔ 1 < index.toNat ∧
      ((∃ value, pool.get (index - 1) = .ok (.long value)) ∨
        ∃ bits, pool.get (index - 1) = .ok (.double bits)) := by
  have hbefore : (index - 1).toNat = index.toNat - 1 :=
    UInt16.toNat_sub_of_le index 1 (UInt16.le_iff_toNat_le.mpr hpos)
  have hne : 1 < index.toNat → index - 1 ≠ 0 := by
    intro hgt hzero
    rw [hzero, UInt16.toNat_zero] at hbefore
    omega
  have hwide : (∃ entry, pool.entry? (index - 1) = some entry ∧ entry.isWide = true) ↔
      (∃ value, pool.entry? (index - 1) = some (.long value)) ∨
        ∃ bits, pool.entry? (index - 1) = some (.double bits) := by
    cases pool.entry? (index - 1) <;> simp [isWide_iff]
  simp only [get_eq_ok_iff, ← hwide]
  constructor
  · rintro ⟨j, entry, hj, hslot, hentry⟩
    have hgt : 1 < index.toNat := by omega
    refine ⟨hgt, entry, ?_, hentry⟩
    rw [entry?_of_ne_zero (hne hgt), hbefore, hj, Nat.add_sub_cancel, hslot]
    rfl
  · rintro ⟨hgt, entry, hfound, hentry⟩
    rw [entry?_of_ne_zero (hne hgt), hbefore] at hfound
    exact ⟨index.toNat - 1 - 1, entry, by omega, Option.join_eq_some_iff.mp hfound, hentry⟩

/-- Where the fillers are placed, a look-up within the count fails just behind an entry of
64 bits. -/
theorem get_fails_iff (hfillers : pool.FillersPlaced) {index : UInt16} (hpos : 1 ≤ index.toNat)
    (hle : index.toNat ≤ pool.count - 1) :
    (∃ e, pool.get index = .error e) ↔ 1 < index.toNat ∧
      ((∃ value, pool.get (index - 1) = .ok (.long value)) ∨
        ∃ bits, pool.get (index - 1) = .ok (.double bits)) := by
  have hne : index ≠ 0 := by
    rintro rfl
    exact absurd hpos (Nat.not_succ_le_zero 0)
  have hwithin : ¬ pool.count ≤ index.toNat := by
    rw [count] at hle ⊢
    omega
  have hfails : (∃ e, pool.get index = .error e) ↔ pool.entry? index = none := by
    simp [get_eq_error_iff]
  rw [hfails, entry?_eq_none_iff hfillers, Vacant, followsWide_iff hpos]
  simp [hne, hwithin]

/-- A pool was read from a declared count, which it keeps, but for a declared 0. -/
theorem exists_declared_of_read {bytes : List UInt8}
    (h : (ConstantPool.decode.run bytes).result = .ok pool) :
    ∃ declared rest, bytes = Bytes.ofWord16 declared ++ rest ∧
      pool.count = max declared.toNat 1 ∧ pool.FillersPlaced := by
  obtain ⟨front, hbytes, haccepted⟩ := accepted_of_run h
  obtain ⟨declared, body, rfl, hsize, hfillers, -⟩ := accepted_decode_iff_exists_count.mp haccepted
  refine ⟨declared, _, hbytes.trans (List.append_assoc _ _ _), ?_, hfillers⟩
  rw [count, hsize]
  omega

/-! ## The views together -/

/-- An entry is enumerated under the indices under which a look-up finds it, and every
other look-up is out of range; the indices ascend strictly, and the slots without the
fillers are the entries in their order.  A pool that was read counts what was declared, at
least 1, so its indices end at 65534, and of the indices within its count just those
behind a long or a double fail. -/
theorem views_agree :
    (∀ pool : ConstantPool, pool.slots.size ≤ 65535 →
      (∀ index entry, pool.get index = .ok entry ↔ (index, entry) ∈ pool.entries) ∧
      (∀ index, (∀ entry, (index, entry) ∉ pool.entries) →
        pool.get index = .error (.indexOutOfRange index)) ∧
      (pool.entries.map fun pair => pair.1.toNat).Pairwise (· < ·) ∧
      pool.slots.toList.filterMap id = pool.entries.map Prod.snd ∧
      pool.count = pool.slots.size + 1) ∧
    ∀ (bytes : List UInt8) (pool : ConstantPool),
      (ConstantPool.decode.run bytes).result = .ok pool →
      ∃ declared rest, bytes = Bytes.ofWord16 declared ++ rest ∧
        pool.count = max declared.toNat 1 ∧
        (∀ index entry, (index, entry) ∈ pool.entries → index.toNat ≤ 65534) ∧
        ∀ index : UInt16, 1 ≤ index.toNat → index.toNat ≤ pool.count - 1 →
          ((∃ e, pool.get index = .error e) ↔ 1 < index.toNat ∧
            ((∃ value, pool.get (index - 1) = .ok (.long value)) ∨
              ∃ bits, pool.get (index - 1) = .ok (.double bits))) := by
  refine ⟨fun pool hsize => ?_, fun bytes pool hread => ?_⟩
  · exact ⟨fun _ _ => (mem_entries_iff hsize).symm, fun _ => get_of_not_mem_entries hsize,
      pairwise_entries hsize, filterMap_slots pool, rfl⟩
  · obtain ⟨declared, rest, hbytes, hcount, hfillers⟩ := exists_declared_of_read hread
    refine ⟨declared, rest, hbytes, hcount, ?_, fun _ => get_fails_iff hfillers⟩
    have hdeclared : declared.toNat < 65536 := declared.toNat_lt
    have hcountable : pool.count ≤ 65535 := by omega
    have hsize : pool.slots.size ≤ 65535 := Nat.le_of_succ_le hcountable
    intro index entry hmem
    have hlt := toNat_lt_count_of_get ((mem_entries_iff hsize).mp hmem)
    omega

/-- A pool whose fillers stand where reading would not put them. -/
def strayPool : ConstantPool := ⟨#[none, some (.integer 5), none, some (.long 1), some (.float 0)]⟩

/-- A pool with two entries of 64 bits, the second in its last slot. -/
def widePool : ConstantPool := ⟨#[some (.long 1), none, some (.double 2)]⟩

/-- Its bytes. -/
def wideBytes : List UInt8 := [0, 4, 5, 0, 0, 0, 0, 0, 0, 0, 1, 6, 0, 0, 0, 0, 0, 0, 0, 2]

theorem views_of_strayPool_and_widePool :
    strayPool.slots.size ≤ 65535 ∧ (2, .integer 5) ∈ strayPool.entries ∧
      strayPool.slots.toList.filterMap id = strayPool.entries.map Prod.snd ∧
      (ConstantPool.decode.run wideBytes).result = .ok widePool ∧
      (∃ e, widePool.get 2 = .error e) ∧ ¬ ∃ e, widePool.get 3 = .error e := by
  have hsize : strayPool.slots.size ≤ 65535 := by decide
  have hread : (ConstantPool.decode.run wideBytes).result = .ok widePool := by
    decide +kernel
  obtain ⟨hget, -, -, hslots, -⟩ := views_agree.1 strayPool hsize
  obtain ⟨declared, rest, -, -, -, hfails⟩ := views_agree.2 wideBytes widePool hread
  refine ⟨hsize, (hget 2 (.integer 5)).mp rfl, hslots, hread, ?_, ?_⟩
  · exact (hfails 2 (by decide) (by decide)).mpr ⟨by decide, .inl ⟨1, rfl⟩⟩
  · intro hfail
    have hwide := (hfails 3 (by decide) (by decide)).mp hfail
    obtain ⟨-, ⟨value, hvalue⟩ | ⟨bits, hbits⟩⟩ := hwide
    · cases hvalue
    · cases hbits

end ClassOutline.ConstantPool
