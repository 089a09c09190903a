/-
  Proofs/ConstantPool/Broken.lean --- why a reference does not hold.

  Where the fillers of a pool are placed, an index has no entry just if it is 0,
  lies behind the last slot, or is that of the slot after an entry of 64 bits.  An
  entry of another kind than is demanded is told together with the kind; a class
  fails by its own kind first and by its name after that.
-/
import ClassOutline.ConstantPool.Reference
import ClassOutline.ConstantPool.Spelling

set_option autoImplicit false

namespace ClassOutline

variable {pool : ConstantPool}

/-! ## Indices without an entry -/

namespace ConstantPool

/-- Whether an index is one that no entry can stand under. -/
def Vacant (pool : ConstantPool) (index : UInt16) : Prop :=
  index = 0 ∨ pool.count ≤ index.toNat ∨ pool.FollowsWide (index.toNat - 1)

@[simp]
theorem entry?_zero : pool.entry? 0 = none := rfl

theorem entry?_of_ne_zero {index : UInt16} (h : index ≠ 0) :
    pool.entry? index = pool.slots[index.toNat - 1]?.join :=
  if_neg h

/-- Where the fillers are placed, the vacant indices are those without an
entry. -/
theorem entry?_eq_none_iff (hfillers : pool.FillersPlaced) {index : UInt16} :
    pool.entry? index = none ↔ pool.Vacant index := by
  by_cases hzero : index = 0
  · simp [Vacant, hzero]
  · have hpos : index.toNat ≠ 0 := fun h => hzero (UInt16.toNat.inj h)
    rw [entry?_of_ne_zero hzero, Vacant, count]
    rcases Nat.lt_or_ge (index.toNat - 1) pool.slots.size with hlt | hge
    · -- Within the pool only a filler has no entry.
      have hbeyond : ¬ pool.slots.size + 1 ≤ index.toNat := by omega
      have hslot : pool.slots[index.toNat - 1]?.join = none ↔
          pool.slots[index.toNat - 1]? = some none := by
        rw [Array.getElem?_eq_getElem hlt]
        simp
      rw [hslot, hfillers _ hlt]
      simp [hzero, hbeyond]
    · have hbeyond : pool.slots.size + 1 ≤ index.toNat := by omega
      simp [Array.getElem?_eq_none hge, hbeyond]

theorem get_eq_error_iff {index : UInt16} {e : DecodeError} :
    pool.get index = .error e ↔ pool.entry? index = none ∧ e = .indexOutOfRange index := by
  rw [get]
  cases pool.entry? index with
  | none => simp [eq_comm]
  | some entry => simp

theorem get_eq_ok_iff {index : UInt16} {entry : Entry} :
    pool.get index = .ok entry ↔ pool.entry? index = some entry := by
  rw [get]
  cases pool.entry? index with
  | none => simp
  | some found => simp

end ConstantPool

/-! ## Failures -/

namespace Reference

/-- The failure by which a reference is broken. -/
inductive BrokenBy (pool : ConstantPool) : Reference → DecodeError → Prop where
  /-- There is no entry under the index. -/
  | vacant {demand : Demand} {index : UInt16} (hindex : pool.Vacant index) :
    BrokenBy pool ⟨demand, index⟩ (.indexOutOfRange index)
  /-- A text is demanded and there is another entry. -/
  | notText {index : UInt16} {entry : Entry} (hentry : pool.entry? index = some entry)
      (hkind : entry.kind ≠ .utf8) :
    BrokenBy pool ⟨.text, index⟩ (.unexpectedEntry .utf8 entry)
  /-- A class is demanded and there is another entry. -/
  | notClass {index : UInt16} {entry : Entry} (hentry : pool.entry? index = some entry)
      (hkind : entry.kind ≠ .classRef) :
    BrokenBy pool ⟨.className, index⟩ (.unexpectedEntry .classRef entry)
  /-- There is a class and its name is no text. -/
  | badName {index name : UInt16} {e : DecodeError}
      (hentry : pool.entry? index = some (.classRef name)) (hname : BrokenBy pool ⟨.text, name⟩ e) :
    BrokenBy pool ⟨.className, index⟩ e

theorem failure?_eq_some_iff {α : Type} {found : Except DecodeError α} {e : DecodeError} :
    failure? found = some e ↔ found = .error e := by
  cases found <;> simp [failure?]

/-- A failed look-up of an entry. -/
theorem brokenBy_of_get (hfillers : pool.FillersPlaced) {demand : Demand} {index : UInt16}
    {e : DecodeError} (h : pool.get index = .error e) : BrokenBy pool ⟨demand, index⟩ e := by
  obtain ⟨hentry, rfl⟩ := ConstantPool.get_eq_error_iff.mp h
  exact .vacant ((ConstantPool.entry?_eq_none_iff hfillers).mp hentry)

/-- A failed look-up of a text. -/
theorem brokenBy_of_utf8 (hfillers : pool.FillersPlaced) {index : UInt16} {e : DecodeError}
    (h : pool.utf8 index = .error e) : BrokenBy pool ⟨.text, index⟩ e := by
  rw [ConstantPool.utf8] at h
  split at h
  · cases h
  · rename_i entry hnot hentry
    obtain rfl := Except.error.inj h
    refine .notText (ConstantPool.get_eq_ok_iff.mp hentry) ?_
    intro hkind
    cases entry <;> cases hkind
    exact hnot _ rfl
  · rename_i hentry
    obtain rfl := Except.error.inj h
    exact brokenBy_of_get hfillers hentry

/-- A failed look-up of the name of a class. -/
theorem brokenBy_of_className (hfillers : pool.FillersPlaced) {index : UInt16} {e : DecodeError}
    (h : pool.className index = .error e) : BrokenBy pool ⟨.className, index⟩ e := by
  rw [ConstantPool.className] at h
  split at h
  · rename_i hentry
    exact .badName (ConstantPool.get_eq_ok_iff.mp hentry) (brokenBy_of_utf8 hfillers h)
  · rename_i entry hnot hentry
    obtain rfl := Except.error.inj h
    refine .notClass (ConstantPool.get_eq_ok_iff.mp hentry) ?_
    intro hkind
    cases entry <;> cases hkind
    exact hnot _ rfl
  · rename_i hentry
    obtain rfl := Except.error.inj h
    exact brokenBy_of_get hfillers hentry

/-- Each way to be broken is the failure of a look-up. -/
theorem BrokenBy.broken? (hfillers : pool.FillersPlaced) {r : Reference} {e : DecodeError}
    (h : r.BrokenBy pool e) : r.broken? pool = some e := by
  induction h with
  | @vacant demand index hindex =>
    have hget : pool.get index = .error (.indexOutOfRange index) :=
      ConstantPool.get_eq_error_iff.mpr ⟨(ConstantPool.entry?_eq_none_iff hfillers).mpr hindex, rfl⟩
    cases demand with
    | anyEntry => simp [Reference.broken?, hget, failure?]
    | text => simp [Reference.broken?, ConstantPool.utf8, hget, failure?]
    | className => simp [Reference.broken?, ConstantPool.className, hget, failure?]
  | @notText index entry hentry hkind =>
    have hget := ConstantPool.get_eq_ok_iff.mpr hentry
    cases entry with
    | utf8 text => exact absurd rfl hkind
    | _ => simp [Reference.broken?, ConstantPool.utf8, hget, failure?]
  | @notClass index entry hentry hkind =>
    have hget := ConstantPool.get_eq_ok_iff.mpr hentry
    cases entry with
    | classRef name => exact absurd rfl hkind
    | _ => simp [Reference.broken?, ConstantPool.className, hget, failure?]
  | @badName index name e hentry _ ih =>
    have hget := ConstantPool.get_eq_ok_iff.mpr hentry
    simpa [Reference.broken?, ConstantPool.className, hget] using ih

/-- The failure of a broken reference, told by the pool alone. -/
theorem brokenBy_iff (hfillers : pool.FillersPlaced) {r : Reference} {e : DecodeError} :
    r.BrokenBy pool e ↔ r.broken? pool = some e := by
  refine ⟨BrokenBy.broken? hfillers, ?_⟩
  obtain ⟨demand, index⟩ := r
  cases demand with
  | anyEntry => exact fun h => brokenBy_of_get hfillers (failure?_eq_some_iff.mp h)
  | text => exact fun h => brokenBy_of_utf8 hfillers (failure?_eq_some_iff.mp h)
  | className => exact fun h => brokenBy_of_className hfillers (failure?_eq_some_iff.mp h)

/-! ## The first failure -/

/-- The first failure is that of a reference behind references that hold. -/
theorem firstBroken?_eq_some_iff {references : List Reference} {e : DecodeError} :
    firstBroken? pool references = some e ↔
      ∃ before r after, references = before ++ r :: after ∧ r.broken? pool = some e ∧
        ∀ b ∈ before, b.Holds pool :=
  List.findSome?_eq_some_iff

theorem firstBroken?_nil : firstBroken? pool [] = none := rfl

theorem firstBroken?_append {front back : List Reference} :
    firstBroken? pool (front ++ back) = (firstBroken? pool front).or (firstBroken? pool back) :=
  List.findSome?_append

theorem firstBroken?_cons {r : Reference} {rest : List Reference} :
    firstBroken? pool (r :: rest) = (r.broken? pool).or (firstBroken? pool rest) := by
  rw [firstBroken?, List.findSome?_cons]
  cases r.broken? pool <;> rfl

/-- Of the references of several things, the first thing with a broken one
decides. -/
theorem firstBroken?_flatMap {α : Type} (items : List α) (references : α → List Reference) :
    firstBroken? pool (items.flatMap references) =
      items.findSome? fun a => firstBroken? pool (references a) := by
  induction items with
  | nil => rfl
  | cons a rest ih =>
    rw [List.flatMap_cons, firstBroken?_append, ih, List.findSome?_cons]
    cases firstBroken? pool (references a) <;> rfl

end Reference

end ClassOutline
