/-
  Proofs/Decoder/Accepted.lean --- the bytes that a decoder turns into an answer.

  A decoder accepts bytes with an answer if it comes to that answer and takes
  exactly these bytes on the way.  That is a spelling, read off the tree of demands
  without any supply, so it composes: what a sequence of decoders accepts is what
  the first accepts followed by what the others accept.  Two lemmas tie it to a
  run, one for each direction.
-/
import ClassOutline.Proofs.Decoder.Run
import ClassOutline.Spelling

set_option autoImplicit false

namespace ClassOutline.Decoder

variable {α β : Type}

/-! ## Acceptance -/

/-- The bytes that a decoder takes, all of them and no more, to come to an
answer. -/
def Accepted : Decoder α → Spelling α
  | .done answer, a, bytes => a = answer ∧ bytes = []
  | .fail _, _, _ => False
  | .need count next, a, bytes =>
    ∃ front back, bytes = front ++ back ∧ front.length = count ∧ (next front).Accepted a back
  | .note _ next, a, bytes => next.Accepted a bytes

theorem accepted_bind {d : Decoder α} {f : α → Decoder β} {b : β} {bytes : List UInt8} :
    (d.bind f).Accepted b bytes ↔
      ∃ a front back, bytes = front ++ back ∧ d.Accepted a front ∧ (f a).Accepted b back := by
  induction d generalizing bytes with
  | done answer =>
    constructor
    · intro h
      exact ⟨answer, [], bytes, rfl, ⟨rfl, rfl⟩, h⟩
    · rintro ⟨_, _, back, rfl, ⟨rfl, rfl⟩, h⟩
      exact h
  | fail e => simp [bind, Accepted]
  | note remark next ih => simp only [bind, Accepted, ih]
  | need count next ih =>
    simp only [bind, Accepted, ih]
    constructor
    · rintro ⟨taken, _, rfl, hcount, a, front, back, rfl, hd, hf⟩
      exact ⟨a, taken ++ front, back, by simp, ⟨taken, front, rfl, hcount, hd⟩, hf⟩
    · rintro ⟨a, _, back, rfl, ⟨taken, front, rfl, hcount, hd⟩, hf⟩
      exact ⟨taken, front ++ back, by simp, hcount, a, front, back, rfl, hd, hf⟩

/-! ## Runs -/

/-- Accepted bytes are answered whatever follows them, and what follows is left. -/
theorem run_append_of_accepted {d : Decoder α} {a : α} {front : List UInt8}
    (h : d.Accepted a front) (tail : List UInt8) :
    (d.run (front ++ tail)).result = .ok a ∧ (d.run (front ++ tail)).rest = tail := by
  induction d generalizing front with
  | done answer =>
    obtain ⟨rfl, rfl⟩ := h
    exact ⟨rfl, rfl⟩
  | fail e => exact h.elim
  | note remark next ih =>
    rw [run_note]
    exact ih h
  | need count next ih =>
    obtain ⟨taken, back, rfl, rfl, hnext⟩ := h
    rw [List.append_assoc, run_need_append]
    exact ih taken hnext

/-- What was answered was accepted, up to what is left. -/
theorem accepted_of_run {d : Decoder α} {a : α} {bytes : List UInt8}
    (h : (d.run bytes).result = .ok a) :
    ∃ front, bytes = front ++ (d.run bytes).rest ∧ d.Accepted a front := by
  induction d generalizing bytes with
  | done answer => exact ⟨[], rfl, (Except.ok.inj h).symm, rfl⟩
  | fail e => cases h
  | note remark next ih =>
    rw [run_note] at h ⊢
    exact ih h
  | need count next ih =>
    rcases length_lt_or_exists_append count bytes with hlt | ⟨front, back, rfl, rfl⟩
    · rw [run_need_of_length_lt next hlt] at h
      cases h
    · rw [run_need_append] at h ⊢
      obtain ⟨more, hback, haccepted⟩ := ih front h
      refine ⟨front ++ more, ?_, front, more, rfl, rfl, haccepted⟩
      rw [List.append_assoc, ← hback]

/-! ## Words

Each word is a demand for a fixed number of bytes, and every list of that length
is the spelling of exactly one word. -/

/-- A demand whose answers and byte lists correspond one to one. -/
theorem accepted_need_done {count : Nat} {read : List UInt8 → α} (write : α → List UInt8)
    (hwrite : ∀ bytes : List UInt8, bytes.length = count → write (read bytes) = bytes)
    (hlength : ∀ a, (write a).length = count) (hread : ∀ a, read (write a) = a)
    {a : α} {bytes : List UInt8} :
    (Decoder.need count fun taken => .done (read taken)).Accepted a bytes ↔ bytes = write a := by
  constructor
  · rintro ⟨front, back, rfl, hcount, rfl, rfl⟩
    rw [List.append_nil, hwrite front hcount]
  · rintro rfl
    exact ⟨write a, [], by simp, hlength a, (hread a).symm, rfl⟩

theorem accepted_bytes {count : Nat} {payload bytes : List UInt8} :
    (Decoder.bytes count).Accepted payload bytes ↔ bytes = payload ∧ payload.length = count := by
  constructor
  · rintro ⟨front, back, rfl, hcount, rfl, rfl⟩
    exact ⟨by simp, hcount⟩
  · rintro ⟨rfl, hcount⟩
    exact ⟨bytes, [], by simp, hcount, rfl, rfl⟩

theorem accepted_byte {b : UInt8} {bytes : List UInt8} :
    byte.Accepted b bytes ↔ bytes = [b] := by
  refine accepted_need_done (fun b => [b]) ?_ (fun _ => rfl) ?_
  · intro bytes hlength
    obtain ⟨x, rfl⟩ := List.length_eq_one_iff.mp hlength
    simp [Bytes.toNat]
  · intro b
    simp [Bytes.toNat]

theorem accepted_word16 {w : UInt16} {bytes : List UInt8} :
    word16.Accepted w bytes ↔ bytes = Bytes.ofWord16 w := by
  refine accepted_need_done Bytes.ofWord16 ?_ ?_ Bytes.word16_ofWord16
  · intro bytes hlength
    exact Bytes.ofWord16_word16 hlength
  · intro w
    exact Bytes.length_ofNat 2 _

theorem accepted_word32 {w : UInt32} {bytes : List UInt8} :
    word32.Accepted w bytes ↔ bytes = Bytes.ofWord32 w := by
  refine accepted_need_done Bytes.ofWord32 ?_ ?_ Bytes.word32_ofWord32
  · intro bytes hlength
    exact Bytes.ofWord32_word32 hlength
  · intro w
    exact Bytes.length_ofNat 4 _

theorem accepted_word64 {w : UInt64} {bytes : List UInt8} :
    word64.Accepted w bytes ↔ bytes = Bytes.ofWord64 w := by
  refine accepted_need_done Bytes.ofWord64 ?_ ?_ Bytes.word64_ofWord64
  · intro bytes hlength
    exact Bytes.ofWord64_word64 hlength
  · intro w
    exact Bytes.length_ofNat 8 _

/-! ## Sequences

A sequence as `do` writes it opens step by step with these lemmas. -/

@[simp] theorem bind_eq_bind (d : Decoder α) (f : α → Decoder β) : (d >>= f) = d.bind f := rfl

@[simp] theorem pure_eq_done (a : α) : (pure a : Decoder α) = .done a := rfl

@[simp] theorem accepted_done {answer a : α} {bytes : List UInt8} :
    (Decoder.done answer).Accepted a bytes ↔ a = answer ∧ bytes = [] := Iff.rfl

@[simp] theorem accepted_fail {e : DecodeError} {a : α} {bytes : List UInt8} :
    (Decoder.fail e).Accepted a bytes ↔ False := Iff.rfl

/-- A first step whose answers have to be good and are spelled by way of a
choice. -/
theorem accepted_bind_of_choice {ρ : Type} {d : Decoder α} {write : ρ → α → List UInt8}
    {Good : α → Prop} (h : ∀ {a bytes}, d.Accepted a bytes ↔ (∃ r, bytes = write r a) ∧ Good a)
    {f : α → Decoder β} {b : β} {bytes : List UInt8} :
    (d.bind f).Accepted b bytes ↔
      ∃ a r back, bytes = write r a ++ back ∧ Good a ∧ (f a).Accepted b back := by
  rw [accepted_bind]
  constructor
  · rintro ⟨a, front, back, rfl, hd, hf⟩
    obtain ⟨⟨r, rfl⟩, hgood⟩ := h.mp hd
    exact ⟨a, r, back, rfl, hgood, hf⟩
  · rintro ⟨a, r, back, rfl, hgood, hf⟩
    exact ⟨a, write r a, back, rfl, h.mpr ⟨⟨r, rfl⟩, hgood⟩, hf⟩

/-- A first step whose answers have to be good and have one spelling each. -/
theorem accepted_bind_of_good {d : Decoder α} {write : α → List UInt8} {Good : α → Prop}
    (h : ∀ {a bytes}, d.Accepted a bytes ↔ bytes = write a ∧ Good a) {f : α → Decoder β} {b : β}
    {bytes : List UInt8} :
    (d.bind f).Accepted b bytes ↔
      ∃ a back, bytes = write a ++ back ∧ Good a ∧ (f a).Accepted b back := by
  have hchoice := @accepted_bind_of_choice α β Unit d (fun _ => write) Good
  simp only [exists_const] at hchoice
  exact hchoice h

/-- A first step that spells each of its answers in one way. -/
theorem accepted_bind_of {d : Decoder α} {write : α → List UInt8}
    (h : ∀ {a bytes}, d.Accepted a bytes ↔ bytes = write a) {f : α → Decoder β} {b : β}
    {bytes : List UInt8} :
    (d.bind f).Accepted b bytes ↔ ∃ a back, bytes = write a ++ back ∧ (f a).Accepted b back := by
  have hgood := @accepted_bind_of_good α β d write (fun _ => True)
  simp only [and_true, true_and] at hgood
  exact hgood h

@[simp] theorem accepted_byte_bind {f : UInt8 → Decoder β} {b : β} {bytes : List UInt8} :
    (byte.bind f).Accepted b bytes ↔ ∃ x back, bytes = x :: back ∧ (f x).Accepted b back :=
  accepted_bind_of accepted_byte

@[simp] theorem accepted_word16_bind {f : UInt16 → Decoder β} {b : β} {bytes : List UInt8} :
    (word16.bind f).Accepted b bytes ↔
      ∃ w back, bytes = Bytes.ofWord16 w ++ back ∧ (f w).Accepted b back :=
  accepted_bind_of accepted_word16

@[simp] theorem accepted_word32_bind {f : UInt32 → Decoder β} {b : β} {bytes : List UInt8} :
    (word32.bind f).Accepted b bytes ↔
      ∃ w back, bytes = Bytes.ofWord32 w ++ back ∧ (f w).Accepted b back :=
  accepted_bind_of accepted_word32

@[simp] theorem accepted_word64_bind {f : UInt64 → Decoder β} {b : β} {bytes : List UInt8} :
    (word64.bind f).Accepted b bytes ↔
      ∃ w back, bytes = Bytes.ofWord64 w ++ back ∧ (f w).Accepted b back :=
  accepted_bind_of accepted_word64

@[simp] theorem accepted_bytes_bind {count : Nat} {f : List UInt8 → Decoder β} {b : β}
    {bytes : List UInt8} :
    ((Decoder.bytes count).bind f).Accepted b bytes ↔
      ∃ payload back, bytes = payload ++ back ∧ payload.length = count ∧
        (f payload).Accepted b back := by
  rw [accepted_bind]
  constructor
  · rintro ⟨payload, front, back, rfl, hd, hf⟩
    obtain ⟨rfl, hcount⟩ := accepted_bytes.mp hd
    exact ⟨front, back, rfl, hcount, hf⟩
  · rintro ⟨payload, back, rfl, hcount, hf⟩
    exact ⟨payload, payload, back, rfl, accepted_bytes.mpr ⟨rfl, hcount⟩, hf⟩

@[simp] theorem accepted_ofExcept_bind {found : Except DecodeError α} {f : α → Decoder β} {b : β}
    {bytes : List UInt8} :
    ((ofExcept found).bind f).Accepted b bytes ↔ ∃ a, found = .ok a ∧ (f a).Accepted b bytes := by
  cases found with
  | ok a => simp [ofExcept, bind]
  | error e => simp [ofExcept, bind]

@[simp] theorem accepted_remark_bind {r : Remark} {f : Unit → Decoder β} {b : β}
    {bytes : List UInt8} :
    ((remark r).bind f).Accepted b bytes ↔ (f ()).Accepted b bytes := Iff.rfl

/-! ## Lists -/

section Lists

variable {item : Decoder α} {spelled : Spelling α} {Good : α → Prop}

/-- The run lemma of `times`: `item` accepts each of the items that are added to
those before. -/
theorem accepted_times (h : ∀ {a bytes}, item.Accepted a bytes ↔ spelled a bytes ∧ Good a)
    {count : Nat} {before items : List α} {bytes : List UInt8} :
    (item.times count before).Accepted items bytes ↔
      ∃ more, items = before.reverse ++ more ∧ more.length = count ∧
        Spelling.all spelled more bytes ∧ ∀ a ∈ more, Good a := by
  induction count generalizing before bytes with
  | zero =>
    constructor
    · rintro ⟨rfl, rfl⟩
      exact ⟨[], by simp, rfl, rfl, by simp⟩
    · rintro ⟨more, rfl, hlength, hall, _⟩
      obtain rfl := List.length_eq_zero_iff.mp hlength
      exact ⟨by simp, hall⟩
  | succ count ih =>
    simp only [times, accepted_bind, h, ih]
    constructor
    · rintro ⟨a, front, back, rfl, ⟨hspelled, hgood⟩, more, rfl, hlength, hall, hmore⟩
      refine ⟨a :: more, by simp, by simp [hlength], ⟨front, back, rfl, hspelled, hall⟩, ?_⟩
      exact List.forall_mem_cons.mpr ⟨hgood, hmore⟩
    · rintro ⟨more, rfl, hlength, hall, hgood⟩
      obtain ⟨a, more, rfl⟩ := List.exists_cons_of_length_eq_add_one hlength
      obtain ⟨front, back, rfl, hspelled, hall⟩ := hall
      obtain ⟨hgood, hmore⟩ := List.forall_mem_cons.mp hgood
      refine ⟨a, front, back, rfl, ⟨hspelled, hgood⟩, more, by simp, ?_, hall, hmore⟩
      simpa using hlength

/-- A counted list is accepted just where its spelling is that of the list. -/
theorem accepted_counted (h : ∀ {a bytes}, item.Accepted a bytes ↔ spelled a bytes ∧ Good a)
    {items : List α} {bytes : List UInt8} :
    (counted item).Accepted items bytes ↔
      Spelling.counted spelled items bytes ∧ ∀ a ∈ items, Good a := by
  simp only [counted, accepted_word16_bind, accepted_times h]
  constructor
  · rintro ⟨w, body, rfl, more, rfl, hlength, hall, hgood⟩
    have hlt : w.toNat < 0x10000 := w.toNat_lt
    refine ⟨⟨?_, body, ?_, hall⟩, hgood⟩
    · simpa [hlength] using hlt
    · simp [hlength, Bytes.ofWord16]
  · rintro ⟨⟨hlt, body, rfl, hall⟩, hgood⟩
    have hcount : (UInt16.ofNat items.length).toNat = items.length :=
      UInt16.toNat_ofNat_of_lt' hlt
    exact ⟨.ofNat items.length, body, by rw [Bytes.ofWord16, hcount], items, rfl, hcount.symm,
      hall, hgood⟩

end Lists

end ClassOutline.Decoder
