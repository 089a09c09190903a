/-
  Proofs/Command/Findings.lean --- what a finding is printed as and what it is.

  A finding is printed, or it is a failure and is logged as one.  Which findings an
  argument has is told by what the walk from it reaches: the content of a class file is
  that of the file that was reached, and a failure has the reason for which nothing was
  read.  The findings stand in the order of their paths.
-/
import ClassOutline.Command
import ClassOutline.Proofs.FileTree.Order

set_option autoImplicit false

namespace ClassOutline.Command

open Log (Record)

/-! ## Answers -/

/-- What is printed for a finding, with its path: the text of a class file that decodes,
below a line with the path. -/
def page? : Finding Content → Option (String × String)
  | .classFile path (.ok bytes) =>
    match ClassFile.decode bytes with
    | .ok c => some (path, "// " ++ path ++ "\n" ++ c.render ++ "\n\n")
    | .error _ => none
  | _ => none

/-- What is said of a finding if it is a failure: a class file that cannot be opened or
does not decode, a directory that cannot be listed, or a path that leads nowhere. -/
def failure? : Finding Content → Option String
  | .classFile path (.ok bytes) =>
    match ClassFile.decode bytes with
    | .ok _ => none
    | .error e => some (path ++ ": " ++ e.message)
  | .classFile path (.error reason) => some (path ++ ": " ++ reason)
  | .unlisted path reason => some (path ++ ": " ++ reason)
  | .missing path => some (path ++ ": no such file or directory")

/-- Whether a record is an error. -/
def isError (record : Record) : Bool := record.level = .error

/-- The remarks of a decoder are no errors. -/
theorem filter_isError_ofRemark (remarks : List Remark) :
    (remarks.map Log.ofRemark).filter isError = [] := by
  rw [List.filter_eq_nil_iff, List.forall_mem_map]
  intro remark _
  cases remark <;> simp [isError, Log.ofRemark]

/-- An answer prints what is to be printed for the finding, counts as a failure if the
finding is one, and then has one error among its records. -/
theorem respond_spec (finding : Finding Content) :
    (respond finding).printed = ((page? finding).map Prod.snd).getD "" ∧
      (respond finding).failed = (failure? finding).isSome ∧
      (respond finding).records.filter isError = (failure? finding).toList.map failure := by
  cases finding with
  | unlisted path reason => exact ⟨rfl, rfl, rfl⟩
  | missing path => exact ⟨rfl, rfl, rfl⟩
  | classFile path content =>
    cases content with
    | error reason => exact ⟨rfl, rfl, rfl⟩
    | ok bytes =>
      rw [respond, respondTo, page?, failure?, ClassFile.decode]
      generalize ClassFile.decoder.run bytes = outcome
      obtain ⟨remarks, result, rest⟩ := outcome
      cases result with
      | error e =>
        refine ⟨rfl, rfl, ?_⟩
        rw [List.filter_append, filter_isError_ofRemark]
        rfl
      | ok c =>
        refine ⟨rfl, rfl, ?_⟩
        rw [List.filter_append, filter_isError_ofRemark]
        rfl

/-! ## Walks -/

/-- What an argument comes to, by what a walk from it reaches: a class file that is
opened, one that is not, a class file whose path leads nowhere, a directory that cannot be
listed, or any other path that leads nowhere. -/
inductive Meets (refusals : Refusals) (system : FileSystem (List UInt8)) (path : String) :
    Finding Content → Prop where
  | opened {place : String} {bytes : List UInt8}
      (h : system.Reaches refusals.listing path place (some (.file bytes)))
      (hname : Path.isClassFile place) (hopen : refusals.opening place = none) :
    Meets refusals system path (.classFile place (.ok bytes))
  | refused {place : String} {bytes : List UInt8} {reason : String}
      (h : system.Reaches refusals.listing path place (some (.file bytes)))
      (hname : Path.isClassFile place) (hopen : refusals.opening place = some reason) :
    Meets refusals system path (.classFile place (.error reason))
  | notThere {place : String} {e : LookupError}
      (h : system.Reaches refusals.listing path place none) (hname : Path.isClassFile place)
      (he : system.at? place = .error e) :
    Meets refusals system path (.classFile place (.error e.message))
  | unlisted {place : String} {entries : List (String × FileTree (List UInt8))} {reason : String}
      (h : system.Reaches refusals.listing path place (some (.directory entries)))
      (hlisting : refusals.listing place = some reason) :
    Meets refusals system path (.unlisted place reason)
  | missing {place : String} (h : system.Reaches refusals.listing path place none)
      (hname : ¬ Path.isClassFile place) : Meets refusals system path (.missing place)

section Contents

variable {refusals : Refusals} {system : FileSystem (List UInt8)} {path : String}

theorem contentAt_of_opening_eq_none {bytes : List UInt8} (h : system.at? path = .ok (.file bytes))
    (hopen : refusals.opening path = none) : contentAt refusals system path = .ok bytes := by
  simp only [contentAt, h, hopen]

theorem contentAt_of_opening_eq_some {bytes : List UInt8} {reason : String}
    (h : system.at? path = .ok (.file bytes)) (hopen : refusals.opening path = some reason) :
    contentAt refusals system path = .error reason := by
  simp only [contentAt, h, hopen]

theorem contentAt_of_error {e : LookupError} (h : system.at? path = .error e) :
    contentAt refusals system path = .error e.message := by
  simp only [contentAt, h]

end Contents

/-- The class files among the findings of an argument come with what is there at their
paths. -/
theorem classFile_mem_findingsOf {refusals : Refusals} {system : FileSystem (List UInt8)}
    {path place : String} {sight : Option (FileTree (List UInt8))}
    (h : system.Reaches refusals.listing path place sight) (hname : Path.isClassFile place)
    (hsight : ∀ entries, sight ≠ some (.directory entries)) :
    .classFile place (contentAt refusals system place) ∈ findingsOf refusals system path := by
  refine List.mem_map.mpr ⟨.classFile place (), ?_, rfl⟩
  refine FileSystem.mem_walk_iff.mpr ⟨place, sight, h, ?_⟩
  exact FileTree.classFile_mem_findingsAt_iff.mpr ⟨rfl, hname, hsight⟩

/-- The findings of an argument are what it comes to. -/
theorem mem_findingsOf_iff {refusals : Refusals} {system : FileSystem (List UInt8)}
    (hroot : system.root.WellNamed) {path : String} {finding : Finding Content} :
    finding ∈ findingsOf refusals system path ↔ Meets refusals system path finding := by
  constructor
  · intro h
    obtain ⟨found, hfound, rfl⟩ := List.mem_map.mp h
    obtain ⟨place', sight, hreaches, hat⟩ := FileSystem.mem_walk_iff.mp hfound
    have hplace := hreaches.leadsTo hroot
    cases found with
    | classFile place content =>
      obtain ⟨rfl, hname, hsight⟩ := FileTree.classFile_mem_findingsAt_iff.mp hat
      rw [Finding.withContent]
      rcases sight with _ | (bytes | entries)
      · obtain ⟨e, he⟩ := hplace
        rw [contentAt_of_error he]
        exact .notThere hreaches hname he
      · cases hopen : refusals.opening place with
        | none =>
          rw [contentAt_of_opening_eq_none hplace hopen]
          exact .opened hreaches hname hopen
        | some reason =>
          rw [contentAt_of_opening_eq_some hplace hopen]
          exact .refused hreaches hname hopen
      · exact absurd rfl (hsight entries)
    | unlisted place reason =>
      obtain ⟨rfl, hlisting, entries, rfl⟩ := FileTree.unlisted_mem_findingsAt_iff.mp hat
      exact .unlisted hreaches hlisting
    | missing place =>
      obtain ⟨rfl, rfl, hname⟩ := FileTree.missing_mem_findingsAt_iff.mp hat
      exact .missing hreaches hname
  · intro h
    cases h with
    | opened h hname hopen =>
      rw [← contentAt_of_opening_eq_none (h.leadsTo hroot) hopen]
      exact classFile_mem_findingsOf h hname (by simp)
    | refused h hname hopen =>
      rw [← contentAt_of_opening_eq_some (h.leadsTo hroot) hopen]
      exact classFile_mem_findingsOf h hname (by simp)
    | notThere h hname he =>
      rw [← contentAt_of_error he]
      exact classFile_mem_findingsOf h hname (by simp)
    | @unlisted place entries reason h hlisting =>
      refine List.mem_map.mpr ⟨.unlisted place reason, ?_, rfl⟩
      refine FileSystem.mem_walk_iff.mpr ⟨place, _, h, ?_⟩
      exact FileTree.unlisted_mem_findingsAt_iff.mpr ⟨rfl, hlisting, entries, rfl⟩
    | @missing place h hname =>
      refine List.mem_map.mpr ⟨.missing place, ?_, rfl⟩
      refine FileSystem.mem_walk_iff.mpr ⟨place, none, h, ?_⟩
      exact FileTree.missing_mem_findingsAt_iff.mpr ⟨rfl, rfl, hname⟩

/-- Each path is met once, and in the order of the paths. -/
theorem ascending_findingsOf (refusals : Refusals) {system : FileSystem (List UInt8)}
    (hroot : system.root.WellNamed) (path : String) :
    Finding.Ascending (findingsOf refusals system path) := by
  rw [Finding.Ascending, findingsOf, List.pairwise_map]
  simp only [Finding.path_withContent]
  exact FileSystem.ascending_walk hroot

end ClassOutline.Command
