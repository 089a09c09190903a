/-
  Proofs/ConstantPool/Accepted.lean --- reading a pool is the inverse of spelling it.

  An entry and a pool are accepted from exactly the bytes that spell them.  The
  fillers of a pool have no bytes.  They are placed by the reader, and
  `fillersAlign` says in one scan of the slots that they stand where it puts them.
-/
import ClassOutline.ConstantPool.Decode
import ClassOutline.ConstantPool.Spelling
import ClassOutline.Proofs.Decoder.Accepted

set_option autoImplicit false

namespace ClassOutline

open Decoder

/-! ## Entries -/

theorem EntryKind.tag_of_ofTag? {tag : UInt8} {kind : EntryKind} (h : ofTag? tag = some kind) :
    kind.tag = tag := by
  have hfound := List.find?_some (p := fun k : EntryKind => k.tag == tag) h
  exact eq_of_beq hfound

namespace Entry

theorem kind_of_accepted_decodeBody {kind : EntryKind} {entry : Entry} {bytes : List UInt8}
    (h : kind.decodeBody.Accepted entry bytes) : entry.kind = kind := by
  cases kind
  all_goals
    simp only [EntryKind.decodeBody, bind_eq_bind, pure_eq_done, accepted_byte_bind,
      accepted_word16_bind, accepted_word32_bind, accepted_word64_bind, accepted_bytes_bind,
      accepted_done] at h
  case utf8 => obtain ⟨_, _, -, _, _, -, -, rfl, -⟩ := h; rfl
  case integer | float | long | double | classRef | string | methodType =>
    obtain ⟨_, _, -, rfl, -⟩ := h; rfl
  case fieldRef | methodRef | interfaceMethodRef | nameAndType | methodHandle | invokeDynamic =>
    obtain ⟨_, _, -, _, _, -, rfl, -⟩ := h; rfl

/-- A text is accepted from a length and as many bytes that decode to it. -/
theorem accepted_utf8_body {text : String} {bytes : List UInt8} :
    EntryKind.utf8.decodeBody.Accepted (.utf8 text) bytes ↔
      ∃ textBytes, (Entry.utf8 text).SpelledBy textBytes ∧
        bytes = (Entry.utf8 text).body textBytes := by
  simp only [EntryKind.decodeBody, bind_eq_bind, pure_eq_done, accepted_word16_bind,
    accepted_bytes_bind, accepted_done, SpelledBy, body]
  constructor
  · rintro ⟨w, _, rfl, textBytes, _, rfl, hlength, htext, rfl⟩
    have hlt : w.toNat < 0x10000 := w.toNat_lt
    obtain rfl := Entry.utf8.inj htext
    exact ⟨textBytes, ⟨hlength ▸ hlt, rfl⟩, by rw [List.append_nil, hlength, Bytes.ofWord16]⟩
  · rintro ⟨textBytes, ⟨hlt, rfl⟩, rfl⟩
    have hcount : (UInt16.ofNat textBytes.length).toNat = textBytes.length :=
      UInt16.toNat_ofNat_of_lt' hlt
    exact ⟨.ofNat textBytes.length, textBytes, by rw [Bytes.ofWord16, hcount], textBytes, [],
      by simp, hcount.symm, rfl, rfl⟩

theorem accepted_decodeBody {entry : Entry} {bytes : List UInt8} :
    entry.kind.decodeBody.Accepted entry bytes ↔
      ∃ textBytes, entry.SpelledBy textBytes ∧ bytes = entry.body textBytes := by
  cases entry
  case utf8 text => exact accepted_utf8_body
  all_goals
    simp only [kind, EntryKind.decodeBody, bind_eq_bind, pure_eq_done, accepted_byte_bind,
      accepted_word16_bind, accepted_word32_bind, accepted_word64_bind, accepted_done,
      SpelledBy, body]
    constructor
  case integer.mp value | long.mp value =>
    rintro ⟨w, _, rfl, hentry, rfl⟩
    cases hentry
    exact ⟨[], trivial, by simp⟩
  case integer.mpr value | long.mpr value =>
    rintro ⟨-, -, rfl⟩
    exact ⟨_, [], (List.append_nil _).symm, by simp, rfl⟩
  case float.mp | double.mp | classRef.mp | string.mp | methodType.mp =>
    rintro ⟨w, _, rfl, hentry, rfl⟩
    cases hentry
    exact ⟨[], trivial, List.append_nil _⟩
  case float.mpr | double.mpr | classRef.mpr | string.mpr | methodType.mpr =>
    rintro ⟨-, -, rfl⟩
    exact ⟨_, [], (List.append_nil _).symm, rfl, rfl⟩
  case fieldRef.mp | methodRef.mp | interfaceMethodRef.mp | nameAndType.mp | methodHandle.mp |
      invokeDynamic.mp =>
    rintro ⟨v, _, rfl, w, _, rfl, hentry, rfl⟩
    cases hentry
    exact ⟨[], trivial, by simp⟩
  case fieldRef.mpr | methodRef.mpr | interfaceMethodRef.mpr | nameAndType.mpr | methodHandle.mpr |
      invokeDynamic.mpr =>
    rintro ⟨-, -, rfl⟩
    exact ⟨_, _, rfl, _, [], (List.append_nil _).symm, rfl, rfl⟩

/-- An entry is accepted from the bytes that spell it. -/
theorem accepted_decode {entry : Entry} {bytes : List UInt8} :
    Entry.decode.Accepted entry bytes ↔
      ∃ textBytes, entry.SpelledBy textBytes ∧ bytes = entry.spelling textBytes := by
  simp only [Entry.decode, bind_eq_bind, accepted_byte_bind, spelling]
  constructor
  · rintro ⟨tag, body, rfl, h⟩
    cases hkind : EntryKind.ofTag? tag with
    | none => simp [hkind] at h
    | some kind =>
      simp only [hkind] at h
      obtain rfl := kind_of_accepted_decodeBody h
      obtain ⟨textBytes, hspelled, rfl⟩ := accepted_decodeBody.mp h
      exact ⟨textBytes, hspelled, by rw [EntryKind.tag_of_ofTag? hkind]⟩
  · rintro ⟨textBytes, hspelled, rfl⟩
    refine ⟨entry.kind.tag, entry.body textBytes, rfl, ?_⟩
    simp only [EntryKind.ofTag?_tag]
    exact accepted_decodeBody.mpr ⟨textBytes, hspelled, rfl⟩

end Entry

namespace ConstantPool

/-! ## Fillers -/

/-- Whether a slot holds an entry of 64 bits. -/
def slotIsWide (slot : Option Entry) : Bool := slot.any Entry.isWide

/-- Whether fillers stand where reading puts them; `wide` says whether the slot
before the first one holds an entry of 64 bits. -/
def fillersAlign : (wide : Bool) → List (Option Entry) → Bool
  | _, [] => true
  | wide, slot :: rest => (slot.isNone == wide) && fillersAlign (slotIsWide slot) rest

/-- What `fillersAlign` scans for, slot by slot. -/
theorem fillersAlign_iff {wide : Bool} {slots : List (Option Entry)} :
    fillersAlign wide slots = true ↔ ∀ i < slots.length, slots[i]? = some none ↔
      (i = 0 ∧ wide = true) ∨
        ∃ j entry, i = j + 1 ∧ slots[j]? = some (some entry) ∧ entry.isWide = true := by
  induction slots generalizing wide with
  | nil => simp [fillersAlign]
  | cons slot rest ih =>
    have hfirst : (slot.isNone == wide) = true ↔ (slot = none ↔ wide = true) := by
      cases slot <;> cases wide <;> simp
    have hwide : slotIsWide slot = true ↔ ∃ entry, slot = some entry ∧ entry.isWide = true := by
      cases slot <;> simp [slotIsWide]
    rw [fillersAlign, Bool.and_eq_true, ih, hfirst, hwide, List.length_cons,
      Nat.forall_lt_succ_left]
    refine and_congr (by simp) (forall_congr' fun i => imp_congr_right fun _ => ?_)
    refine iff_congr (by simp) ?_
    -- The slot before the one at `i + 1` is the first one, or one of the rest.
    constructor
    · rintro (⟨rfl, entry, hslot, hentry⟩ | ⟨j, entry, rfl, hslot, hentry⟩)
      · exact .inr ⟨0, entry, rfl, by simp [hslot], hentry⟩
      · exact .inr ⟨j + 1, entry, rfl, by simpa using hslot, hentry⟩
    · rintro (⟨hzero, -⟩ | ⟨j, entry, hj, hslot, hentry⟩)
      · exact absurd hzero (Nat.succ_ne_zero i)
      · obtain rfl : i = j := by omega
        cases i with
        | zero => exact .inl ⟨rfl, entry, by simpa using hslot, hentry⟩
        | succ j => exact .inr ⟨j, entry, rfl, by simpa using hslot, hentry⟩

/-- One scan of the slots finds out whether the fillers are placed. -/
theorem fillersPlaced_iff {pool : ConstantPool} :
    pool.FillersPlaced ↔ fillersAlign false pool.slots.toList = true := by
  rw [fillersAlign_iff]
  simp [FillersPlaced, FollowsWide]

instance (pool : ConstantPool) : Decidable pool.FillersPlaced :=
  decidable_of_iff _ fillersPlaced_iff.symm

/-! ## Slots -/

/-- Whether bytes may stand for the text in a slot. -/
def SlotSpelledBy (textBytes : List UInt8) (slot : Option Entry) : Prop :=
  ∀ entry, slot = some entry → entry.SpelledBy textBytes

/-- The bytes of a slot. -/
def SlotSpelled : Spelling (Option Entry) := fun slot bytes =>
  ∃ textBytes, SlotSpelledBy textBytes slot ∧ bytes = slotSpelling textBytes slot

theorem slotSpelled_none {bytes : List UInt8} : SlotSpelled none bytes ↔ bytes = [] := by
  simp [SlotSpelled, SlotSpelledBy, slotSpelling]

theorem slotSpelled_some {entry : Entry} {bytes : List UInt8} :
    SlotSpelled (some entry) bytes ↔ Entry.decode.Accepted entry bytes := by
  simp [SlotSpelled, SlotSpelledBy, slotSpelling, Entry.accepted_decode]

/-- The bytes of slots whose fillers stand where reading puts them. -/
def SlotsSpelled : Spelling (List (Option Entry)) := fun slots bytes =>
  fillersAlign false slots = true ∧ Spelling.all SlotSpelled slots bytes

section Slots

variable {entry : Entry} {more : List (Option Entry)} {bytes : List UInt8}

theorem slotsSpelled_nil : SlotsSpelled [] bytes ↔ bytes = [] := by
  simp [SlotsSpelled, fillersAlign, Spelling.all]

/-- The first slot holds no filler. -/
theorem not_slotsSpelled_none : ¬ SlotsSpelled (none :: more) bytes := by
  simp [SlotsSpelled, fillersAlign]

theorem slotsSpelled_singleton :
    SlotsSpelled [some entry] bytes ↔ Entry.decode.Accepted entry bytes := by
  simp [SlotsSpelled, fillersAlign, Spelling.all, slotSpelled_some]

/-- An entry of one slot is followed by any slots. -/
theorem slotsSpelled_cons_of_narrow (hnarrow : entry.isWide = false) :
    SlotsSpelled (some entry :: more) bytes ↔
      ∃ front back, bytes = front ++ back ∧ Entry.decode.Accepted entry front ∧
        SlotsSpelled more back := by
  have halign : fillersAlign false (some entry :: more) = fillersAlign false more := by
    simp [fillersAlign, slotIsWide, hnarrow]
  simp only [SlotsSpelled, halign, Spelling.all, slotSpelled_some]
  constructor
  · rintro ⟨hmore, front, back, rfl, hentry, hall⟩
    exact ⟨front, back, rfl, hentry, hmore, hall⟩
  · rintro ⟨front, back, rfl, hentry, hmore, hall⟩
    exact ⟨hmore, front, back, rfl, hentry, hall⟩

/-- An entry of two slots is followed by a filler, which has no bytes. -/
theorem slotsSpelled_cons_of_wide (hwide : entry.isWide = true) {next : Option Entry} :
    SlotsSpelled (some entry :: next :: more) bytes ↔
      next = none ∧ ∃ front back, bytes = front ++ back ∧ Entry.decode.Accepted entry front ∧
        SlotsSpelled more back := by
  cases next with
  | some _ => simp [SlotsSpelled, fillersAlign, slotIsWide, hwide]
  | none =>
    have halign : fillersAlign false (some entry :: none :: more) = fillersAlign false more := by
      simp [fillersAlign, slotIsWide, hwide]
    simp only [SlotsSpelled, halign, Spelling.all, slotSpelled_some, slotSpelled_none, true_and]
    constructor
    · rintro ⟨hmore, front, _, rfl, hentry, _, back, rfl, rfl, hall⟩
      exact ⟨front, back, rfl, hentry, hmore, hall⟩
    · rintro ⟨front, back, rfl, hentry, hmore, hall⟩
      exact ⟨hmore, front, back, rfl, hentry, [], back, rfl, rfl, hall⟩

end Slots

/-- The run lemma of the slots: those that are added to the ones before are
spelled by the bytes. -/
theorem accepted_decodeSlots {free filled : Nat} {before slots : List (Option Entry)}
    {bytes : List UInt8} :
    (decodeSlots free filled before).Accepted slots bytes ↔
      ∃ more, slots = before.reverse ++ more ∧ more.length = free ∧ SlotsSpelled more bytes := by
  induction free, filled, before using decodeSlots.induct generalizing bytes with
  | case1 filled before =>
    constructor
    · rintro ⟨rfl, rfl⟩
      exact ⟨[], by simp, rfl, slotsSpelled_nil.mpr rfl⟩
    · rintro ⟨more, rfl, hlength, hspelled⟩
      obtain rfl := List.length_eq_zero_iff.mp hlength
      exact ⟨by simp, slotsSpelled_nil.mp hspelled⟩
  | case2 filled before =>
    rw [decodeSlots, bind_eq_bind, accepted_bind]
    simp only [bind_eq_bind, pure_eq_done, accepted_remark_bind, accepted_done]
    constructor
    · rintro ⟨entry, front, _, rfl, hentry, rfl, rfl⟩
      rw [List.append_nil]
      exact ⟨[some entry], by simp, rfl, slotsSpelled_singleton.mpr hentry⟩
    · rintro ⟨more, rfl, hlength, hspelled⟩
      obtain ⟨slot, rfl⟩ := List.length_eq_one_iff.mp hlength
      cases slot with
      | none => exact absurd hspelled not_slotsSpelled_none
      | some entry =>
        have hentry := slotsSpelled_singleton.mp hspelled
        exact ⟨entry, bytes, [], (List.append_nil _).symm, hentry, by simp, rfl⟩
  | case3 free filled before ihWide ihNarrow =>
    rw [decodeSlots, bind_eq_bind, accepted_bind]
    simp only [bind_eq_bind, accepted_remark_bind]
    constructor
    · rintro ⟨entry, front, back, rfl, hentry, hrest⟩
      split at hrest
      · rename_i hwide
        obtain ⟨more, rfl, hlength, hmore⟩ := (ihWide entry).mp hrest
        refine ⟨some entry :: none :: more, by simp, by simp [hlength], ?_⟩
        exact (slotsSpelled_cons_of_wide hwide).mpr ⟨rfl, front, back, rfl, hentry, hmore⟩
      · rename_i hnarrow
        obtain ⟨more, rfl, hlength, hmore⟩ := (ihNarrow entry).mp hrest
        refine ⟨some entry :: more, by simp, by simp [hlength], ?_⟩
        exact (slotsSpelled_cons_of_narrow (Bool.eq_false_iff.mpr hnarrow)).mpr
          ⟨front, back, rfl, hentry, hmore⟩
    · rintro ⟨more, rfl, hlength, hspelled⟩
      obtain ⟨slot, more, rfl⟩ := List.exists_cons_of_length_eq_add_one hlength
      cases slot with
      | none => exact absurd hspelled not_slotsSpelled_none
      | some entry =>
        cases hwide : entry.isWide with
        | true =>
          obtain ⟨next, more, rfl⟩ :=
            List.exists_cons_of_length_eq_add_one (Nat.succ.inj hlength)
          obtain ⟨rfl, front, back, rfl, hentry, hmore⟩ :=
            (slotsSpelled_cons_of_wide hwide).mp hspelled
          refine ⟨entry, front, back, rfl, hentry, ?_⟩
          rw [if_pos hwide]
          exact (ihWide entry).mpr ⟨more, by simp, by simpa using hlength, hmore⟩
        | false =>
          obtain ⟨front, back, rfl, hentry, hmore⟩ :=
            (slotsSpelled_cons_of_narrow hwide).mp hspelled
          refine ⟨entry, front, back, rfl, hentry, ?_⟩
          rw [if_neg (Bool.eq_false_iff.mp hwide)]
          exact (ihNarrow entry).mpr ⟨more, by simp, by simpa using hlength, hmore⟩

/-! ## Pools -/

/-- The bytes of the slots of a pool, given those of the text in each slot. -/
theorem all_slotSpelled_iff {pool : ConstantPool} {bytes : List UInt8} :
    Spelling.all SlotSpelled pool.slots.toList bytes ↔
      ∃ textBytes, pool.SpelledBy textBytes ∧
        bytes =
          (pool.slots.toList.mapIdx fun i slot => slotSpelling (textBytes i) slot).flatten := by
  have hspelled : ∀ textBytes : Nat → List UInt8, pool.SpelledBy textBytes ↔
      ∀ (i : Nat) (slot : Option Entry), pool.slots.toList[i]? = some slot →
        SlotSpelledBy (textBytes i) slot := by
    intro textBytes
    simp only [SpelledBy, SlotSpelledBy, Array.getElem?_toList]
    constructor
    · rintro h i _ hi entry rfl
      exact h i entry hi
    · intro h i entry hi
      exact h i (some entry) hi entry rfl
  simp only [hspelled]
  exact Spelling.all_iff_exists_choice slotSpelling SlotSpelledBy

/-- A pool is accepted from a count and the bytes of its slots. -/
theorem accepted_decode_iff_exists_count {pool : ConstantPool} {bytes : List UInt8} :
    ConstantPool.decode.Accepted pool bytes ↔
      ∃ count body, bytes = Bytes.ofWord16 count ++ body ∧ pool.slots.size = count.toNat - 1 ∧
        pool.FillersPlaced ∧ Spelling.all SlotSpelled pool.slots.toList body := by
  rw [ConstantPool.decode, bind_eq_bind, accepted_word16_bind, fillersPlaced_iff]
  refine exists_congr fun count => exists_congr fun body => and_congr_right fun _ => ?_
  rw [bind_eq_bind, accepted_bind]
  simp only [accepted_decodeSlots, SlotsSpelled, pure_eq_done, accepted_done]
  constructor
  · rintro ⟨slots, front, _, rfl, ⟨more, rfl, hlength, halign, hall⟩, rfl, rfl⟩
    exact ⟨by simpa using hlength, by simpa using halign, by simpa using hall⟩
  · rintro ⟨hsize, halign, hall⟩
    exact ⟨pool.slots.toList, body, [], by simp,
      ⟨pool.slots.toList, rfl, by simpa using hsize, halign, hall⟩, by simp⟩

/-- A pool is accepted from the bytes that spell it, provided that its slots can
be counted and its fillers stand where they have to.  An empty pool is accepted
from a count of 0 too. -/
theorem accepted_decode {pool : ConstantPool} {bytes : List UInt8} :
    ConstantPool.decode.Accepted pool bytes ↔
      (pool.slots.size ≤ 65534 ∧ pool.FillersPlaced ∧
        ∃ textBytes, pool.SpelledBy textBytes ∧ bytes = pool.spelling textBytes) ∨
      (pool.slots.size = 0 ∧ bytes = [0, 0]) := by
  rw [accepted_decode_iff_exists_count]
  constructor
  · rintro ⟨count, body, rfl, hsize, hfillers, hall⟩
    have hlt : count.toNat < 0x10000 := count.toNat_lt
    by_cases hcount : count = 0
    · subst hcount
      have hempty : pool.slots.toList = [] := by simpa using hsize
      rw [hempty] at hall
      obtain rfl : body = [] := hall
      exact .inr ⟨by simpa using hsize, rfl⟩
    · have hpos : count.toNat ≠ 0 := fun h => hcount (UInt16.toNat.inj h)
      obtain ⟨textBytes, hspelled, rfl⟩ := all_slotSpelled_iff.mp hall
      have hcount : pool.count = count.toNat := by
        rw [ConstantPool.count]
        omega
      exact .inl ⟨by omega, hfillers, textBytes, hspelled, by
        rw [spelling, hcount, Bytes.ofWord16]⟩
  · rintro (⟨hsize, hfillers, textBytes, hspelled, rfl⟩ | ⟨hsize, rfl⟩)
    · have hlt : pool.count < 0x10000 := by
        rw [ConstantPool.count]
        omega
      have hcount : (UInt16.ofNat pool.count).toNat = pool.count :=
        UInt16.toNat_ofNat_of_lt' hlt
      refine ⟨.ofNat pool.count, _, by rw [spelling, Bytes.ofWord16, hcount], ?_, hfillers,
        all_slotSpelled_iff.mpr ⟨textBytes, hspelled, rfl⟩⟩
      rw [hcount, ConstantPool.count]
      omega
    · have hempty : pool.slots.toList = [] := by simpa using hsize
      refine ⟨0, [], rfl, hsize, fillersPlaced_iff.mpr ?_, ?_⟩
      · rw [hempty]
        rfl
      · rw [hempty]
        rfl

end ConstantPool

end ClassOutline
