/-
  Proofs/ConstantPool/Dump.lean --- what a dump tells about its pool.

  A line of a dump is an index, a word for the kind of the entry and the content of the
  entry.  Neither an index nor a word has a space in it, and no content has a newline, so
  every part can be told from what follows it: the lines from the dump, the word from the
  line, and the entry from the word and the content, up to the bits that a shown
  floating-point number leaves open.
-/
import ClassOutline.Proofs.ConstantPool.Entries
import ClassOutline.Proofs.Text.Quoted

set_option autoImplicit false

namespace ClassOutline

open Text

/-! ## Parts of a text -/

namespace Text

variable {c : Char} {mark s s' t t' : String}

/-- What stands before the first mark and what stands behind it are told by the whole. -/
theorem append_mark_inj (hmark : mark.toList = [c]) (hs : c ∉ s.toList) (hs' : c ∉ s'.toList)
    (h : s ++ mark ++ t = s' ++ mark ++ t') : s = s' ∧ t = t' := by
  have hchars : s.toList ++ c :: t.toList = s'.toList ++ c :: t'.toList := by
    simpa [String.toList_append, hmark] using congrArg String.toList h
  have hpieces := congrArg (List.splitOn c) hchars
  rw [List.splitOn_append_cons_self_of_not_mem hs, List.splitOn_append_cons_self_of_not_mem hs',
    List.cons.injEq] at hpieces
  rw [hpieces.1] at hchars
  have hback := List.tail_eq_of_cons_eq (List.append_cancel_left hchars)
  exact ⟨String.toList_inj.mp hpieces.1, String.toList_inj.mp hback⟩

/-! ## Numbers -/

theorem not_mem_natText (hc : c.isDigit = false) (n : Nat) : c ∉ (toString n).toList := by
  rw [Nat.toString_eq_ofList_toDigits, String.toList_ofList]
  exact not_mem_decimal hc n

theorem natText_inj {m n : Nat} (h : toString m = toString n) : m = n := by
  have hdigits : Nat.toDigits 10 m = Nat.toDigits 10 n := by
    simpa [Nat.toString_eq_ofList_toDigits] using congrArg String.toList h
  calc m = Nat.ofDigitChars 10 (Nat.toDigits 10 m) 0 := Nat.ofDigitChars_ten_toDigits.symm
    _ = Nat.ofDigitChars 10 (Nat.toDigits 10 n) 0 := by rw [hdigits]
    _ = n := Nat.ofDigitChars_ten_toDigits

/-- A number below zero is told by its sign, which is no digit. -/
theorem intText_inj {m n : Int} (h : toString m = toString n) : m = n := by
  have hsign : ∀ k l : Nat, toString k ≠ "-" ++ toString (l + 1) := by
    intro k l heq
    refine not_mem_natText (c := '-') rfl k ?_
    rw [heq, String.toList_append]
    exact List.mem_append_left _ (List.mem_singleton_self _)
  cases m with
  | ofNat k =>
    cases n with
    | ofNat l => exact congrArg Int.ofNat (natText_inj h)
    | negSucc l => exact absurd h (hsign k l)
  | negSucc k =>
    cases n with
    | ofNat l => exact absurd h.symm (hsign l k)
    | negSucc l =>
      have hdigits : toString (k + 1) = toString (l + 1) := (String.append_right_inj "-").mp h
      exact congrArg Int.negSucc (Nat.succ.inj (natText_inj hdigits))

end Text

/-! ## Entries -/

/-- The word that stands for a kind in the text of its entries. -/
def EntryKind.word : EntryKind → String
  | .utf8 => "Utf8"
  | .integer => "Integer"
  | .float => "Float"
  | .long => "Long"
  | .double => "Double"
  | .classRef => "Class"
  | .string => "String"
  | .fieldRef => "Fieldref"
  | .methodRef => "Methodref"
  | .interfaceMethodRef => "InterfaceMethodref"
  | .nameAndType => "NameAndType"
  | .methodHandle => "MethodHandle"
  | .methodType => "MethodType"
  | .invokeDynamic => "InvokeDynamic"

theorem EntryKind.space_not_mem_word (kind : EntryKind) : ' ' ∉ kind.word.toList := by
  cases kind <;> decide

theorem EntryKind.word_inj {kind kind' : EntryKind} (h : kind.word = kind'.word) :
    kind = kind' := by
  revert h
  cases kind <;> cases kind' <;> decide

namespace Entry

/-- The text of an entry behind the word for its kind. -/
def content : Entry → String
  | .utf8 text => quoteString text
  | .integer value => toString value.toInt
  | .float bits => Decimal.textOfSingle bits
  | .long value => toString value.toInt
  | .double bits => Decimal.textOfDouble bits
  | .classRef index | .string index | .methodType index => indexText index
  | .fieldRef owner member | .methodRef owner member | .interfaceMethodRef owner member =>
    indexText owner ++ "." ++ indexText member
  | .nameAndType name descriptor => indexText name ++ ":" ++ indexText descriptor
  | .methodHandle referenceKind reference => toString referenceKind ++ ":" ++ indexText reference
  | .invokeDynamic bootstrapMethod member => indexText bootstrapMethod ++ ":" ++ indexText member

theorem indexText_eq (index : UInt16) : indexText index = "#" ++ toString index.toNat := by
  have hsign : toString "#" = "#" := rfl
  have hnumber : toString index = toString index.toNat := rfl
  rw [indexText, hsign, hnumber]

/-- Two indices behind a word, with a mark between them. -/
theorem pairText_eq (word mark : String) {front back : String} (hfront : front = word ++ " " ++ "#")
    (hback : back = mark ++ "#") (a b : UInt16) :
    front ++ toString a ++ back ++ toString b =
      word ++ " " ++ (indexText a ++ mark ++ indexText b) := by
  rw [hfront, hback, indexText_eq, indexText_eq]
  simp only [String.append_assoc]
  rfl

/-- The text of an entry is a word for its kind and its content. -/
theorem text_eq (entry : Entry) : entry.text = entry.kind.word ++ " " ++ entry.content := by
  have hword : ∀ (front word content : String), front = word ++ " " →
      front ++ content = word ++ " " ++ content :=
    fun _ _ content h => congrArg (· ++ content) h
  cases entry with
  | utf8 text => exact hword "Utf8 " "Utf8" (quoteString text) rfl
  | integer value => exact hword "Integer " "Integer" (toString value.toInt) rfl
  | float bits => exact hword "Float " "Float" (Decimal.textOfSingle bits) rfl
  | long value => exact hword "Long " "Long" (toString value.toInt) rfl
  | double bits => exact hword "Double " "Double" (Decimal.textOfDouble bits) rfl
  | classRef name => exact hword "Class " "Class" (indexText name) rfl
  | string text => exact hword "String " "String" (indexText text) rfl
  | methodType descriptor => exact hword "MethodType " "MethodType" (indexText descriptor) rfl
  | fieldRef owner member =>
    have htext : text (.fieldRef owner member) =
        "Fieldref #" ++ toString owner ++ ".#" ++ toString member := rfl
    exact htext.trans (pairText_eq "Fieldref" "." rfl rfl _ _)
  | methodRef owner member =>
    have htext : text (.methodRef owner member) =
        "Methodref #" ++ toString owner ++ ".#" ++ toString member := rfl
    exact htext.trans (pairText_eq "Methodref" "." rfl rfl _ _)
  | interfaceMethodRef owner member =>
    have htext : text (.interfaceMethodRef owner member) =
        "InterfaceMethodref #" ++ toString owner ++ ".#" ++ toString member := rfl
    exact htext.trans (pairText_eq "InterfaceMethodref" "." rfl rfl _ _)
  | nameAndType name descriptor =>
    have htext : text (.nameAndType name descriptor) =
        "NameAndType #" ++ toString name ++ ":#" ++ toString descriptor := rfl
    exact htext.trans (pairText_eq "NameAndType" ":" rfl rfl _ _)
  | invokeDynamic bootstrapMethod member =>
    have htext : text (.invokeDynamic bootstrapMethod member) =
        "InvokeDynamic #" ++ toString bootstrapMethod ++ ":#" ++ toString member := rfl
    exact htext.trans (pairText_eq "InvokeDynamic" ":" rfl rfl _ _)
  | methodHandle referenceKind reference =>
    have hword : "MethodHandle " = "MethodHandle" ++ " " := rfl
    have hmark : ":#" = ":" ++ "#" := rfl
    have htext : text (.methodHandle referenceKind reference) =
        "MethodHandle " ++ toString referenceKind ++ ":#" ++ toString reference := rfl
    have hcontent : content (.methodHandle referenceKind reference) =
        toString referenceKind ++ ":" ++ ("#" ++ toString reference) := rfl
    rw [htext, hcontent, hword, hmark]
    simp only [String.append_assoc]
    rfl

/-- Whether entries are the same but for the bits that floating-point numbers which are
shown alike differ in. -/
inductive Alike : Entry → Entry → Prop
  | same (entry : Entry) : Alike entry entry
  | float {bits bits' : UInt32} (h : Decimal.textOfSingle bits = Decimal.textOfSingle bits') :
    Alike (.float bits) (.float bits')
  | double {bits bits' : UInt64} (h : Decimal.textOfDouble bits = Decimal.textOfDouble bits') :
    Alike (.double bits) (.double bits')

theorem not_mem_indexText {c : Char} (hc : c.isDigit = false) (hne : c ≠ '#') (index : UInt16) :
    c ∉ (indexText index).toList := by
  rw [indexText_eq, String.toList_append, List.mem_append, not_or]
  exact ⟨by simpa using hne, not_mem_natText hc _⟩

theorem indexText_inj {index index' : UInt16} (h : indexText index = indexText index') :
    index = index' := by
  rw [indexText_eq, indexText_eq] at h
  exact UInt16.toNat.inj (natText_inj ((String.append_right_inj _).mp h))

theorem pair_inj {c : Char} {mark : String} (hmark : mark.toList = [c]) (hc : c.isDigit = false)
    (hne : c ≠ '#') {a a' b b' : UInt16}
    (h : indexText a ++ mark ++ indexText b = indexText a' ++ mark ++ indexText b') :
    a = a' ∧ b = b' := by
  obtain ⟨ha, hb⟩ :=
    append_mark_inj hmark (not_mem_indexText hc hne a) (not_mem_indexText hc hne a') h
  exact ⟨indexText_inj ha, indexText_inj hb⟩

/-- Entries of one kind with the same content are alike. -/
theorem alike_of_content {entry entry' : Entry} (hkind : entry.kind = entry'.kind)
    (h : entry.content = entry'.content) : entry.Alike entry' := by
  cases entry <;> cases entry' <;> cases hkind
  case utf8 text text' =>
    obtain rfl := quoteString_injective h
    exact .same _
  case integer value value' =>
    obtain rfl := Int32.toInt.inj (intText_inj h)
    exact .same _
  case float => exact .float h
  case long value value' =>
    obtain rfl := Int64.toInt.inj (intText_inj h)
    exact .same _
  case double => exact .double h
  case classRef | string | methodType =>
    obtain rfl := indexText_inj h
    exact .same _
  case fieldRef | methodRef | interfaceMethodRef =>
    obtain ⟨rfl, rfl⟩ := pair_inj rfl rfl (by decide) h
    exact .same _
  case nameAndType | invokeDynamic =>
    obtain ⟨rfl, rfl⟩ := pair_inj rfl rfl (by decide) h
    exact .same _
  case methodHandle referenceKind reference referenceKind' reference' =>
    obtain ⟨hnumber, hreference⟩ :=
      append_mark_inj (c := ':') rfl (not_mem_natText rfl _) (not_mem_natText rfl _) h
    obtain rfl := UInt8.toNat.inj (natText_inj hnumber)
    obtain rfl := indexText_inj hreference
    exact .same _

/-- Entries with the same text are alike. -/
theorem alike_of_text {entry entry' : Entry} (h : entry.text = entry'.text) :
    entry.Alike entry' := by
  rw [text_eq, text_eq] at h
  obtain ⟨hword, hcontent⟩ :=
    append_mark_inj rfl entry.kind.space_not_mem_word entry'.kind.space_not_mem_word h
  exact alike_of_content (EntryKind.word_inj hword) hcontent

theorem oneLine_indexText (index : UInt16) : OneLine (indexText index) :=
  not_mem_indexText rfl (by decide) index

/-- The text of an entry stays on one line, whatever text the entry holds. -/
theorem oneLine_text (entry : Entry) : OneLine entry.text := by
  have hword : OneLine entry.kind.word := by
    cases entry.kind <;> decide
  have hdot : OneLine "." := by decide
  have hcolon : OneLine ":" := by decide
  have hpair : ∀ {mark : String}, OneLine mark → ∀ a b,
      OneLine (indexText a ++ mark ++ indexText b) :=
    fun hmark a b => ((oneLine_indexText a).append hmark).append (oneLine_indexText b)
  rw [text_eq]
  refine (hword.append (by decide)).append ?_
  cases entry with
  | utf8 text => exact oneLine_quoteString text
  | integer value => exact oneLine_intText _
  | float bits => exact Decimal.oneLine_textOfSingle bits
  | long value => exact oneLine_intText _
  | double bits => exact Decimal.oneLine_textOfDouble bits
  | classRef index | string index | methodType index => exact oneLine_indexText index
  | fieldRef a b | methodRef a b | interfaceMethodRef a b => exact hpair hdot a b
  | nameAndType a b | invokeDynamic a b => exact hpair hcolon a b
  | methodHandle referenceKind reference =>
    exact ((oneLine_natText referenceKind.toNat).append hcolon).append (oneLine_indexText reference)

end Entry

/-! ## Dumps -/

namespace ConstantPool

theorem entryLine_eq (index : UInt16) (entry : Entry) :
    entryLine index.toNat entry = Entry.indexText index ++ " " ++ ("= " ++ entry.text) := by
  have hsign : toString "#" = "#" := rfl
  have hmark : toString " = " = " " ++ "= " := rfl
  have htext : toString entry.text = entry.text := rfl
  rw [entryLine, hsign, hmark, htext, Entry.indexText_eq]
  simp only [String.append_assoc]

theorem oneLine_entryLine (index : UInt16) (entry : Entry) :
    OneLine (entryLine index.toNat entry) := by
  rw [entryLine_eq]
  have hback : OneLine ("= " ++ entry.text) := OneLine.append (by decide) entry.oneLine_text
  exact ((Entry.oneLine_indexText index).append (by decide)).append hback

theorem entryLine_inj {index index' : UInt16} {entry entry' : Entry}
    (h : entryLine index.toNat entry = entryLine index'.toNat entry') :
    index = index' ∧ entry.Alike entry' := by
  rw [entryLine_eq, entryLine_eq] at h
  have hspace : ∀ i, ' ' ∉ (Entry.indexText i).toList :=
    Entry.not_mem_indexText rfl (by decide)
  obtain ⟨hindex, hback⟩ := append_mark_inj rfl (hspace index) (hspace index') h
  have htext := (String.append_right_inj "= ").mp hback
  exact ⟨Entry.indexText_inj hindex, Entry.alike_of_text htext⟩

/-- The lines of a dump are those of the entries, and the last one is ended too. -/
theorem lines_dump (pool : ConstantPool) :
    lines pool.dump =
      (pool.entries.map fun (index, entry) => entryLine index.toNat entry) ++ [""] := by
  have hdump : pool.dump = String.join
      ((pool.entries.map fun (index, entry) => entryLine index.toNat entry).map (· ++ "\n")) := by
    rw [dump, List.map_map]
    rfl
  rw [hdump]
  refine lines_join ?_
  intro line hline
  obtain ⟨⟨index, entry⟩, -, rfl⟩ := List.mem_map.mp hline
  exact oneLine_entryLine index entry

/-- An entry of a pool has one that is alike under the same index of every pool with the
same dump. -/
theorem exists_alike_of_dump {pool pool' : ConstantPool} (hsize : pool.slots.size ≤ 65535)
    (hsize' : pool'.slots.size ≤ 65535) (h : pool.dump = pool'.dump) {index : UInt16}
    {entry : Entry} (hget : pool.get index = .ok entry) :
    ∃ entry', pool'.get index = .ok entry' ∧ entry.Alike entry' := by
  have hlines : lines pool.dump = lines pool'.dump := congrArg lines h
  rw [lines_dump, lines_dump, List.append_left_inj] at hlines
  have hline : entryLine index.toNat entry ∈
      pool'.entries.map fun (index, entry) => entryLine index.toNat entry := by
    rw [← hlines]
    exact List.mem_map.mpr ⟨(index, entry), (mem_entries_iff hsize).mpr hget, rfl⟩
  obtain ⟨⟨index', entry'⟩, hmem, hsame⟩ := List.mem_map.mp hline
  obtain ⟨rfl, halike⟩ := entryLine_inj hsame.symm
  exact ⟨entry', (mem_entries_iff hsize').mp hmem, halike⟩

/-- A dump has one line for each entry, ended by a newline, whatever texts the entries
hold.  Pools with the same dump have entries under the same indices, and entries under the
same index are the same, up to the bits of floating-point numbers that are shown alike. -/
theorem dump_faithful :
    (∀ pool : ConstantPool, pool.slots.size ≤ 65535 →
      lines pool.dump =
        (pool.entries.map fun (index, entry) => entryLine index.toNat entry) ++ [""]) ∧
    ∀ pool pool' : ConstantPool, pool.slots.size ≤ 65535 → pool'.slots.size ≤ 65535 →
      pool.dump = pool'.dump → ∀ index,
        (∀ entry, pool.get index = .ok entry →
          ∃ entry', pool'.get index = .ok entry' ∧ entry.Alike entry') ∧
        ∀ entry', pool'.get index = .ok entry' →
          ∃ entry, pool.get index = .ok entry ∧ entry'.Alike entry := by
  refine ⟨fun pool _ => lines_dump pool, ?_⟩
  intro pool pool' hsize hsize' h index
  refine ⟨fun entry hget => ?_, fun entry' hget' => ?_⟩
  · exact exists_alike_of_dump hsize hsize' h hget
  · exact exists_alike_of_dump hsize' hsize h.symm hget'

/-- A pool with a text of two lines, of which the second looks like one of a dump, and
something that is not a number. -/
def textPool : ConstantPool :=
  ⟨#[some (.utf8 "\"\n#2 = Class #1"), none, some (.float 0x7FC00000)]⟩

/-- The same with other bits, and with a filler at the end. -/
def otherTextPool : ConstantPool :=
  ⟨#[some (.utf8 "\"\n#2 = Class #1"), none, some (.float 0xFF800001), none]⟩

theorem dump_textPool :
    textPool.slots.size ≤ 65535 ∧ otherTextPool.slots.size ≤ 65535 ∧
      textPool.dump = otherTextPool.dump ∧
      lines textPool.dump = ["#1 = Utf8 \"\\\"\\n#2 = Class #1\"", "#3 = Float NaN", ""] ∧
      ∃ entry', otherTextPool.get 3 = .ok entry' ∧ (Entry.float 0x7FC00000).Alike entry' := by
  have hsize : textPool.slots.size ≤ 65535 := by decide
  have hsize' : otherTextPool.slots.size ≤ 65535 := by decide
  have hdump : textPool.dump = otherTextPool.dump := by
    decide +kernel
  have hlines := dump_faithful.1 textPool hsize
  have halike := (dump_faithful.2 textPool otherTextPool hsize hsize' hdump 3).1 _ rfl
  refine ⟨hsize, hsize', hdump, hlines.trans ?_, halike⟩
  decide +kernel

end ConstantPool

end ClassOutline
