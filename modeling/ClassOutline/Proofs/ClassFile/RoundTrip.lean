/-
  Proofs/ClassFile/RoundTrip.lean --- class files and their spellings determine
  each other.

  A class file that can be read back is what decoding answers to each of its
  spellings, whatever follows them.  Nothing else decodes: what was decoded is
  such a class file, and the bytes are one of its spellings and a rest.
-/
import ClassOutline.Proofs.ClassFile.Accepted

set_option autoImplicit false

namespace ClassOutline.ClassFile

/-! ## A class file that leaves choices

Its class and its field have bits in the gaps of their access words, and its
first text has a spelling that is longer than it need be. -/

/-- A pool with a filler after the long of slot 5 and none after the double at the
end. -/
def samplePool : ConstantPool :=
  ⟨#[some (.utf8 "A"), some (.classRef 1), some (.utf8 annotationsName), some (.utf8 "LA;"),
    some (.long (-1)), none, some (.integer 1), some (.double 0)]⟩

/-- The annotation `@A(A = {1, -1})`, where the type of the second value is wrong. -/
def sampleUse : AnnotationUse := ⟨4, [⟨1, .array [.constant .int 7, .constant .byte 5]⟩]⟩

/-- An attribute with that annotation. -/
def sampleAttribute : Attribute where
  nameIndex := 3
  payload := [0, 1, 0, 4, 0, 1, 0, 1, 0x5B, 0, 2, 0x49, 0, 7, 0x42, 0, 5]
  annotations := some [sampleUse]

/-- A field that carries it. -/
def sampleField : Member .field where
  access := .ofWord .field 1
  nameIndex := 1
  descriptorIndex := 4
  attributes := [sampleAttribute]

/-- A class without a superclass. -/
def sampleClass : ClassFile where
  magic := magicNumber
  minorVersion := 0
  majorVersion := 52
  pool := samplePool
  access := .ofWord .type 1
  thisClass := 2
  superClass := 0
  interfaces := [2]
  fields := [sampleField]
  methods := []
  attributes := [⟨4, [7], none⟩]

/-- All bits set where none is meant, and two bytes for the first text. -/
def sampleLatitude : Latitude where
  typeBits := 0xFFFF
  fieldBits _ := 0xFFFF
  methodBits _ := 0
  textBytes
    | 0 => [0xC1, 0x81]
    | 2 => annotationsName.toUTF8.toList
    | 3 => [0x4C, 0x41, 0x3B]
    | _ => []

theorem named_and_annotated_of_mem_sampleClass :
    ∀ a ∈ sampleClass.everyAttribute, a.Named samplePool ∧ a.Annotated samplePool := by
  have hread : ∀ a ∈ [sampleAttribute, ⟨4, [7], none⟩], ∃ name,
      samplePool.utf8 a.nameIndex = .ok name ∧
        Attribute.annotationsOf samplePool name a.payload = .ok a.annotations := by
    simp only [List.forall_mem_cons]
    exact ⟨⟨annotationsName, rfl, rfl⟩, ⟨"LA;", rfl, rfl⟩, by simp⟩
  intro a ha
  exact Attribute.named_and_annotated_iff.mpr (hread a ha)

theorem sampleClass_named : sampleClass.Named where
  thisClass := ⟨"A", rfl⟩
  superClass hsuper := absurd rfl hsuper
  interfaces := List.forall_mem_singleton.mpr ⟨"A", rfl⟩
  fields := List.forall_mem_singleton.mpr ⟨⟨"A", rfl⟩, "LA;", rfl⟩
  methods := by simp [sampleClass]
  attributes a ha := (named_and_annotated_of_mem_sampleClass a ha).1

theorem sampleClass_legible : sampleClass.Legible where
  magic := rfl
  fits := ⟨by decide, by decide, by decide, by decide, by decide⟩
  fillers := by decide
  named := sampleClass_named
  annotated a ha := (named_and_annotated_of_mem_sampleClass a ha).2

theorem samplePool_spelledBy : samplePool.SpelledBy sampleLatitude.textBytes := by
  decide +kernel

/-- A spelling of that class file, and a byte behind it. -/
def sampleBytes : List UInt8 :=
  [0xCA, 0xFE, 0xBA, 0xBE, 0, 0, 0, 52, 0, 9, 1, 0, 2, 0xC1, 0x81, 7, 0, 1, 1, 0, 25] ++
    annotationsName.toUTF8.toList ++
    [1, 0, 3, 0x4C, 0x41, 0x3B, 5, 255, 255, 255, 255, 255, 255, 255, 255, 3, 0, 0, 0, 1,
     6, 0, 0, 0, 0, 0, 0, 0, 0, 0x89, 0xCF, 0, 2, 0, 0, 0, 1, 0, 2,
     0, 1, 0xAF, 0x21, 0, 1, 0, 4, 0, 1, 0, 3, 0, 0, 0, 17,
     0, 1, 0, 4, 0, 1, 0, 1, 0x5B, 0, 2, 0x49, 0, 7, 0x42, 0, 5,
     0, 0, 0, 1, 0, 4, 0, 0, 0, 1, 7, 0xFF]

theorem decode_sampleBytes : decode sampleBytes = .ok sampleClass := by
  decide +kernel

/-! ## Spelling, then decoding -/

/-- Every spelling of a class file that can be read back decodes to it, whatever
follows, and what follows is left. -/
theorem decode_spelling_append {c : ClassFile} (hc : c.Legible) {latitude : Latitude}
    (htexts : c.pool.SpelledBy latitude.textBytes) (tail : List UInt8) :
    decode (c.spelling latitude ++ tail) = .ok c ∧
      (decoder.run (c.spelling latitude ++ tail)).rest = tail := by
  have haccepted : decoder.Accepted c (c.spelling latitude) :=
    accepted_decoder.mpr ⟨hc, latitude, htexts, rfl⟩
  exact Decoder.run_append_of_accepted haccepted tail

theorem decode_sampleClass_spelling :
    sampleClass.Legible ∧ samplePool.SpelledBy sampleLatitude.textBytes ∧
      decode (sampleClass.spelling sampleLatitude ++ [0xFF]) = .ok sampleClass := by
  have hdecode := decode_spelling_append sampleClass_legible samplePool_spelledBy [0xFF]
  exact ⟨sampleClass_legible, samplePool_spelledBy, hdecode.1⟩

/-! ## Decoding, then spelling -/

/-- What was decoded can be read back, and it was read from one of its
spellings. -/
theorem legible_and_spelled_of_decode {bytes : List UInt8} {c : ClassFile}
    (h : decode bytes = .ok c) :
    c.Legible ∧ ∃ latitude : Latitude, c.pool.SpelledBy latitude.textBytes ∧
      bytes = c.spelling latitude ++ (decoder.run bytes).rest := by
  obtain ⟨front, hbytes, haccepted⟩ := Decoder.accepted_of_run h
  obtain ⟨hc, latitude, htexts, hfront⟩ := accepted_decoder.mp haccepted
  rw [hfront] at hbytes
  exact ⟨hc, latitude, htexts, hbytes⟩

/-- Nothing decodes but the spellings of class files that can be read back, so
inputs that decode to the same class file differ in the latitude of their
spellings and in what follows these. -/
theorem spelling_of_decode {bytes : List UInt8} {c : ClassFile} (h : decode bytes = .ok c) :
    c.Legible ∧
      (∃ latitude : Latitude, c.pool.SpelledBy latitude.textBytes ∧
        bytes = c.spelling latitude ++ (decoder.run bytes).rest) ∧
      ∀ other, decode other = .ok c →
        ∃ latitude otherLatitude : Latitude, ∃ tail otherTail,
          c.pool.SpelledBy latitude.textBytes ∧ c.pool.SpelledBy otherLatitude.textBytes ∧
            bytes = c.spelling latitude ++ tail ∧
            other = c.spelling otherLatitude ++ otherTail := by
  obtain ⟨hc, latitude, htexts, hbytes⟩ := legible_and_spelled_of_decode h
  refine ⟨hc, ⟨latitude, htexts, hbytes⟩, ?_⟩
  intro other hother
  obtain ⟨-, otherLatitude, hotherTexts, hotherBytes⟩ := legible_and_spelled_of_decode hother
  exact ⟨latitude, otherLatitude, _, _, htexts, hotherTexts, hbytes, hotherBytes⟩

theorem sampleBytes_spelling :
    decode sampleBytes = .ok sampleClass ∧
      ∃ latitude : Latitude, samplePool.SpelledBy latitude.textBytes ∧
        sampleBytes = sampleClass.spelling latitude ++ (decoder.run sampleBytes).rest := by
  have hspelling := spelling_of_decode decode_sampleBytes
  exact ⟨decode_sampleBytes, hspelling.2.1⟩

end ClassOutline.ClassFile
