/-
  Proofs/Command/Outcome.lean --- what the command prints, logs and exits with.

  What is printed and what has failed is told finding by finding.  The logger has no part
  in that.  A file that is added, removed or changed has no part in what is printed for
  any other.
-/
import Mathlib.Data.List.Basic
import ClassOutline.Proofs.ClassFile.RoundTrip
import ClassOutline.Proofs.Command.Findings
import ClassOutline.Proofs.FileTree.Completion
import ClassOutline.Proofs.FileTree.Visits

set_option autoImplicit false

namespace ClassOutline.Command

open FileSystem (longPath noteSystem)

/-! ## Runs -/

section Runs

variable (findings : List (Finding Content))

/-- What is printed are the texts of the findings that have one, in order. -/
theorem join_printed :
    String.join ((findings.map respond).map Response.printed) =
      String.join ((findings.filterMap page?).map Prod.snd) := by
  induction findings with
  | nil => rfl
  | cons finding rest ih =>
    obtain ⟨hprinted, -, -⟩ := respond_spec finding
    rw [List.map_cons, List.map_cons, String.join_cons, hprinted, ih, List.filterMap_cons]
    cases page? finding with
    | none => exact String.empty_append
    | some printed => rw [List.map_cons, String.join_cons]; rfl

/-- One failure is enough for the command to fail. -/
theorem exitCode_eq :
    exitCode (findings.map respond) = if findings.filterMap failure? = [] then 0 else 1 := by
  have hany : (findings.map respond).any Response.failed = true ↔
      ¬ findings.filterMap failure? = [] := by
    rw [List.any_map, List.any_eq_true, List.filterMap_eq_nil_iff]
    simp only [Function.comp_apply, (respond_spec _).2.1, Option.isSome_iff_ne_none]
    simp
  rw [exitCode]
  by_cases h : findings.filterMap failure? = []
  · rw [if_pos h, if_neg (mt hany.mp (not_not_intro h))]
  · rw [if_neg h, if_pos (hany.mpr h)]

/-- The errors that are handed to the log are the failures, one for each and in order. -/
theorem filter_isError_records :
    (records (some findings)).filter isError = (findings.filterMap failure?).map failure := by
  rw [records, List.filter_flatMap, List.flatMap_map]
  simp only [(respond_spec _).2.2]
  induction findings with
  | nil => rfl
  | cons finding rest ih =>
    rw [List.flatMap_cons, ih, List.filterMap_cons]
    cases failure? finding <;> rfl

end Runs

/-! ## Files that differ -/

section Files

variable {pattern : FileSystem (Option (List UInt8))} {system : FileSystem (List UInt8)}
  {refusals : Refusals}

/-- What is printed for an argument, each text with the path of its class file. -/
def printed (refusals : Refusals) (system : FileSystem (List UInt8)) (path : String) :
    List (String × String) :=
  (findingsOf refusals system path).filterMap page?

/-- What is printed for all arguments is what is printed for all their findings. -/
theorem flatMap_printed (refusals : Refusals) (system : FileSystem (List UInt8))
    (args : List String) :
    args.flatMap (printed refusals system) =
      (args.flatMap (findingsOf refusals system)).filterMap page? := by
  rw [List.filterMap_flatMap]
  rfl

/-- What is printed for a finding of a walk. -/
def pageOf? (refusals : Refusals) (system : FileSystem (List UInt8)) (finding : Finding Unit) :
    Option (String × String) :=
  page? (finding.withContent (contentAt refusals system))

/-- Only a file is printed, and with its own path. -/
theorem exists_of_pageOf? {path : String} {text : String × String}
    (h : pageOf? refusals system (.classFile path ()) = some text) :
    text.1 = path ∧ ∃ bytes, system.at? path = .ok (.file bytes) := by
  rw [pageOf?, Finding.withContent, contentAt] at h
  split at h
  · next bytes hfile =>
    refine ⟨?_, bytes, hfile⟩
    split at h
    · rw [page?] at h
      split at h
      · cases h
        rfl
      · cases h
    · cases h
  · cases h
  · cases h

/-- What is printed in the place of no open file is a known file. -/
theorem filter_pageOf? (h : pattern.Completes system) (hpattern : pattern.root.WellNamed)
    (finding : Finding Unit) :
    ((pageOf? refusals system finding).filter fun text => !pattern.isOpen text.1) =
      if pattern.keeps finding then pageOf? refusals system finding else none := by
  cases finding with
  | unlisted path reason => rfl
  | missing path => rfl
  | classFile path content =>
    cases hpage : pageOf? refusals system (.classFile path content) with
    | none => simp
    | some text =>
      obtain ⟨rfl, bytes, hfile⟩ := exists_of_pageOf? hpage
      rw [FileSystem.keeps, Option.filter_some, h.isOpen_eq_not_isKnown hpattern hfile,
        Bool.not_not]

/-- A known file is printed alike in each completion. -/
theorem pageOf?_eq_of_keeps {system' : FileSystem (List UInt8)} (h : pattern.Completes system)
    (h' : pattern.Completes system') (hpattern : pattern.root.WellNamed) {finding : Finding Unit}
    (hkeeps : pattern.keeps finding) :
    pageOf? refusals system finding = pageOf? refusals system' finding := by
  cases finding with
  | unlisted path reason => rfl
  | missing path => rfl
  | classFile path content =>
    obtain ⟨bytes, hknown, hfile⟩ := h.exists_at?_of_isKnown hpattern hkeeps
    obtain ⟨bytes', hknown', hfile'⟩ := h'.exists_at?_of_isKnown hpattern hkeeps
    cases hknown.symm.trans hknown'
    rw [pageOf?, pageOf?, Finding.withContent, Finding.withContent, contentAt, contentAt, hfile,
      hfile']

/-- What is printed besides the open files is what is printed for the known ones. -/
theorem filter_printed (h : pattern.Completes system) (hpattern : pattern.root.WellNamed)
    (path : String) :
    ((printed refusals system path).filter fun text => !pattern.isOpen text.1) =
      ((pattern.walk refusals.listing path).filter pattern.keeps).filterMap
        (pageOf? refusals system) := by
  rw [printed, findingsOf, List.filterMap_map, List.filter_filterMap,
    ← h.filter_walk hpattern, List.filterMap_filter]
  exact List.filterMap_congr fun finding _ => filter_pageOf? h hpattern finding

/-- Trees that differ in the open files only are printed alike besides these. -/
theorem filter_printed_eq {system' : FileSystem (List UInt8)} (h : pattern.Completes system)
    (h' : pattern.Completes system') (hpattern : pattern.root.WellNamed) (path : String) :
    ((printed refusals system path).filter fun text => !pattern.isOpen text.1) =
      (printed refusals system' path).filter fun text => !pattern.isOpen text.1 := by
  rw [filter_printed h hpattern, filter_printed h' hpattern]
  refine List.filterMap_congr fun finding hmem => ?_
  exact pageOf?_eq_of_keeps h h' hpattern (List.mem_filter.mp hmem).2

end Files

/-! ## The command -/

/-- Without arguments the command prints nothing, tells how it is used and exits with 2.
Otherwise it prints, argument by argument and in the order of the walks, the text of each
class file that decodes.  It exits with 1 if there was a failure, and one error for each
failure, in order, is handed to the logger.  The logger decides what is shown of that and
nothing else.  The findings of an argument are those of the walk from it: they tell what
the walk reaches, each path once and in the order of the paths; what counts as missing is
the argument itself, or cannot be followed.  If file systems differ in some files only,
what is printed for each argument besides these files is the same in all of them. -/
theorem outcome_of_findings (refusals : Refusals) (system : FileSystem (List UInt8)) :
    (∀ logger, (runUnder refusals system logger []).exit = 2 ∧
      (runUnder refusals system logger []).stdout = "") ∧
    records (met refusals system []) = [⟨.error, "jprint", "usage: jprint <path>..."⟩] ∧
    (∀ args, args ≠ [] →
      (∀ logger, (runUnder refusals system logger args).stdout =
          String.join ((args.flatMap (printed refusals system)).map Prod.snd) ∧
        (runUnder refusals system logger args).exit =
          if (args.flatMap (findingsOf refusals system)).filterMap failure? = [] then 0 else 1) ∧
      (records (met refusals system args)).filter isError =
        ((args.flatMap (findingsOf refusals system)).filterMap failure?).map
          fun message => ⟨.error, "jprint", message⟩) ∧
    (∀ args logger, (runUnder refusals system logger args).stderr =
      logger (records (met refusals system args))) ∧
    (∀ args logger logger',
      (runUnder refusals system logger args).stdout =
          (runUnder refusals system logger' args).stdout ∧
        (runUnder refusals system logger args).exit =
          (runUnder refusals system logger' args).exit) ∧
    (∀ path, (findingsOf refusals system path).map (Finding.withContent fun _ => ()) =
      system.walk refusals.listing path) ∧
    (system.root.WellNamed → ∀ path,
      Finding.Ascending (findingsOf refusals system path) ∧
      (∀ finding, finding ∈ findingsOf refusals system path ↔
        Meets refusals system path finding) ∧
      ∀ place, .missing place ∈ findingsOf refusals system path →
        place = path ∨ system.isBlocked place) ∧
    ∀ (pattern : FileSystem (Option (List UInt8))) (system' : FileSystem (List UInt8)),
      pattern.root.WellNamed → pattern.Completes system → pattern.Completes system' → ∀ path,
        ((printed refusals system path).filter fun text => !pattern.isOpen text.1) =
          (printed refusals system' path).filter fun text => !pattern.isOpen text.1 := by
  refine ⟨fun _ => ⟨rfl, rfl⟩, rfl, ?_, ?_, ?_, ?_, ?_, ?_⟩
  · intro args hargs
    have hmet : met refusals system args = some (args.flatMap (findingsOf refusals system)) :=
      if_neg (by simpa using hargs)
    refine ⟨fun logger => ⟨?_, ?_⟩, ?_⟩
    · rw [runUnder, hmet, flatMap_printed]
      exact join_printed _
    · rw [runUnder, hmet]
      exact exitCode_eq _
    · rw [hmet]
      exact filter_isError_records _
  · intro args logger
    rw [runUnder]
    cases met refusals system args <;> rfl
  · intro args logger logger'
    rw [runUnder, runUnder]
    cases met refusals system args <;> exact ⟨rfl, rfl⟩
  · intro path
    rw [findingsOf, List.map_map]
    refine (List.map_congr_left fun finding _ => ?_).trans (List.map_id _)
    cases finding <;> rfl
  · intro hroot path
    refine ⟨ascending_findingsOf refusals hroot path, fun finding => mem_findingsOf_iff hroot, ?_⟩
    intro place hmissing
    cases (mem_findingsOf_iff hroot).mp hmissing with
    | missing hreaches => exact hreaches.eq_or_isBlocked
  · exact fun pattern system' hpattern h h' path => filter_printed_eq h h' hpattern path

/-- A working directory with a class file, and what may be another. -/
def samplePattern : FileSystem (Option (List UInt8)) :=
  .ofEntries [("A.class", .file (some ClassFile.sampleBytes)), ("B.class", .file none)]
    fun _ => none

/-- That directory with too few bytes in the other file. -/
def sampleSystem : FileSystem (List UInt8) :=
  .ofEntries [("A.class", .file ClassFile.sampleBytes), ("B.class", .file [0xCA])] fun _ => none

/-- The directory without the other file. -/
def smallerSystem : FileSystem (List UInt8) :=
  .ofEntries [("A.class", .file ClassFile.sampleBytes)] fun _ => none

theorem sampleSystem_wellNamed : sampleSystem.root.WellNamed := by
  apply FileSystem.wellNamed_ofEntries
  simp only [FileTree.WellNamed, FileTree.EachWellNamed]
  decide

theorem samplePattern_wellNamed : samplePattern.root.WellNamed := by
  apply FileSystem.wellNamed_ofEntries
  simp only [FileTree.WellNamed, FileTree.EachWellNamed]
  decide

/-- A file that is printed, one that does not decode, one that is not there, and a path that
leads nowhere; above the root there is the root. -/
def samplePaths : List String :=
  ["/../work/A.class", "../work/B.class", "C.class", "gone"]

theorem findings_samplePaths :
    samplePaths.flatMap (findingsOf .empty sampleSystem) =
      [.classFile "/../work/A.class" (.ok ClassFile.sampleBytes),
        .classFile "../work/B.class" (.ok [0xCA]),
        .classFile "C.class" (.error "No such file or directory (os error 2)"),
        .missing "gone"] :=
  rfl

theorem outcome_of_samplePaths :
    samplePaths ≠ [] ∧
    (∀ logger, (runUnder .empty sampleSystem logger samplePaths).stdout =
        "// /../work/A.class\n" ++ ClassFile.sampleClass.render ++ "\n\n" ∧
      (runUnder .empty sampleSystem logger samplePaths).exit = 1) ∧
    (records (met .empty sampleSystem samplePaths)).filter isError =
      [⟨.error, "jprint", "../work/B.class: Unexpected end of input"⟩,
        ⟨.error, "jprint", "C.class: No such file or directory (os error 2)"⟩,
        ⟨.error, "jprint", "gone: no such file or directory"⟩] ∧
    sampleSystem.root.WellNamed ∧ Finding.Ascending (findingsOf .empty sampleSystem ".") ∧
    Meets .empty sampleSystem "gone" (.missing "gone") ∧
    .missing "gone" ∈ findingsOf .empty sampleSystem "gone" ∧
    ("gone" = "gone" ∨ sampleSystem.isBlocked "gone") ∧
    samplePattern.root.WellNamed ∧ samplePattern.Completes sampleSystem ∧
    samplePattern.Completes smallerSystem ∧
    ((printed .empty sampleSystem ".").filter fun text => !samplePattern.isOpen text.1) =
      (printed .empty smallerSystem ".").filter fun text => !samplePattern.isOpen text.1 := by
  obtain ⟨-, -, hargs, -, -, -, hmeets, hfiles⟩ := outcome_of_findings .empty sampleSystem
  have hsome : samplePaths ≠ [] := List.cons_ne_nil _ _
  have hbroken : ClassFile.decode [0xCA] = .error .truncated := rfl
  obtain ⟨hrun, herrors⟩ := hargs _ hsome
  have hprinted : samplePaths.flatMap (printed .empty sampleSystem) =
      [("/../work/A.class",
        "// /../work/A.class\n" ++ ClassFile.sampleClass.render ++ "\n\n")] := by
    rw [flatMap_printed, findings_samplePaths]
    simp [page?, ClassFile.decode_sampleBytes, hbroken]
  have hfailures : (samplePaths.flatMap (findingsOf .empty sampleSystem)).filterMap failure? =
      ["../work/B.class: Unexpected end of input",
        "C.class: No such file or directory (os error 2)", "gone: no such file or directory"] := by
    have hsound : failure? (.classFile "/../work/A.class" (.ok ClassFile.sampleBytes)) = none := by
      rw [failure?, ClassFile.decode_sampleBytes]
    rw [findings_samplePaths, List.filterMap_cons, hsound]
    rfl
  have hsmaller : samplePattern.Completes smallerSystem :=
    ⟨.directory (.cons (.directory (.cons (.known _) (.leftOut .nil))) .nil), rfl, rfl⟩
  have hsample : samplePattern.Completes sampleSystem :=
    ⟨.directory (.cons (.directory (.cons (.known _) (.cons (.filled _) .nil))) .nil), rfl, rfl⟩
  obtain ⟨hascending, -, -⟩ := hmeets sampleSystem_wellNamed "."
  have hgone : .missing "gone" ∈ findingsOf .empty sampleSystem "gone" :=
    List.mem_singleton_self _
  obtain ⟨-, hmeetsGone, hmissing⟩ := hmeets sampleSystem_wellNamed "gone"
  refine ⟨hsome, fun logger => ⟨?_, ?_⟩, ?_, sampleSystem_wellNamed, hascending,
    (hmeetsGone _).mp hgone, hgone, hmissing _ hgone, samplePattern_wellNamed, hsample, hsmaller,
    hfiles _ _ samplePattern_wellNamed hsample hsmaller "."⟩
  · rw [(hrun logger).1, hprinted]
    simp
  · rw [(hrun logger).2, hfailures]
    rfl
  · rw [herrors, hfailures]
    rfl

/-- A file that is not named like a class file makes the command fail if its path is too
long, although the argument leads to a directory, every directory can be listed and there
is no class file. -/
theorem exit_longPath :
    (noteSystem ([] : List UInt8)).root.WellNamed ∧
    (noteSystem ([] : List UInt8)).at? longPath = .ok (.directory [("n.txt", .file [])]) ∧
    (noteSystem ([] : List UInt8)).at? "n.txt" = .ok (.file []) ∧
    (noteSystem ([] : List UInt8)).visits (fun _ => none) longPath = [] ∧
    (noteSystem ([] : List UInt8)).refusedPlaces (fun _ => none) longPath = ∅ ∧
    ∀ logger, (runUnder .empty (noteSystem []) logger [longPath]).exit = 1 := by
  have hfindings : findingsOf .empty (noteSystem []) longPath =
      [.missing (Path.join longPath "n.txt")] := by
    have hwalk : (noteSystem ([] : List UInt8)).walk Refusals.empty.listing longPath =
        [.missing (Path.join longPath "n.txt")] := FileSystem.walk_longPath []
    rw [findingsOf, hwalk]
    rfl
  refine ⟨FileSystem.noteSystem_wellNamed [], FileSystem.at?_longPath [], rfl,
    FileSystem.visits_longPath [], FileSystem.refusedPlaces_eq_empty _ _, fun logger => ?_⟩
  have hmet : met .empty (noteSystem []) [longPath] =
      some [.missing (Path.join longPath "n.txt")] := by
    rw [met, List.flatMap_singleton, hfindings]
    rfl
  rw [runUnder, hmet]
  rfl

end ClassOutline.Command
