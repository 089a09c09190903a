/-
  ConstantPool/Reference.lean --- what an index has to stand for.

  A reference is an index together with what its place demands of the entry under
  it.  It holds in a pool if the look-up for that demand succeeds, and is broken
  by the failure of that look-up otherwise.
-/
import ClassOutline.ConstantPool.Basic

set_option autoImplicit false

namespace ClassOutline

/-- What a place demands of the entry under an index. -/
inductive Demand where
  /-- That there is one. -/
  | anyEntry
  /-- That it is a text. -/
  | text
  /-- That it is a class whose name is a text. -/
  | className
  deriving DecidableEq, Repr

/-- An index with the demand of its place. -/
structure Reference where
  demand : Demand
  index : UInt16
  deriving DecidableEq, Repr

namespace Reference

/-- The failure of a look-up. -/
def failure? {α : Type} : Except DecodeError α → Option DecodeError
  | .ok _ => none
  | .error e => some e

/-- Why a reference does not hold in a pool. -/
def broken? (pool : ConstantPool) : Reference → Option DecodeError
  | ⟨.anyEntry, index⟩ => failure? (pool.get index)
  | ⟨.text, index⟩ => failure? (pool.utf8 index)
  | ⟨.className, index⟩ => failure? (pool.className index)

/-- Whether a reference holds in a pool. -/
def Holds (pool : ConstantPool) (r : Reference) : Prop := r.broken? pool = none

instance (pool : ConstantPool) (r : Reference) : Decidable (r.Holds pool) :=
  inferInstanceAs (Decidable (_ = _))

/-- The failure of the first reference, in the order of a list, that does not
hold. -/
def firstBroken? (pool : ConstantPool) (references : List Reference) : Option DecodeError :=
  references.findSome? (broken? pool)

theorem firstBroken?_eq_none_iff {pool : ConstantPool} {references : List Reference} :
    firstBroken? pool references = none ↔ ∀ r ∈ references, r.Holds pool := by
  simp [firstBroken?, Holds]

theorem failure?_eq_none_iff {α : Type} {found : Except DecodeError α} :
    failure? found = none ↔ ∃ a, found = .ok a := by
  cases found <;> simp [failure?]

theorem holds_anyEntry {pool : ConstantPool} {index : UInt16} :
    (⟨.anyEntry, index⟩ : Reference).Holds pool ↔ ∃ entry, pool.get index = .ok entry :=
  failure?_eq_none_iff

theorem holds_text {pool : ConstantPool} {index : UInt16} :
    (⟨.text, index⟩ : Reference).Holds pool ↔ ∃ text, pool.utf8 index = .ok text :=
  failure?_eq_none_iff

theorem holds_className {pool : ConstantPool} {index : UInt16} :
    (⟨.className, index⟩ : Reference).Holds pool ↔ ∃ name, pool.className index = .ok name :=
  failure?_eq_none_iff

end Reference

end ClassOutline
