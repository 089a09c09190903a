/-
  Proofs/FileTree/Visits.lean --- what a walk visits and how many failures it counts.

  A visit may have any effects, and a walk visits one class file after the other.  How
  many failures there are is told by the answers of the visits and by the places that the
  walk gets to: the directories that cannot be listed and the paths that lead nowhere.
-/
import Mathlib.Data.Set.Card
import ClassOutline.Proofs.FileTree.Order

set_option autoImplicit false

namespace ClassOutline

/-! ## Counting failures -/

namespace Finding

variable {β : Type}

/-- The path of a directory that could not be listed. -/
def unlisted? : Finding β → Option String
  | .unlisted path _ => some path
  | _ => none

/-- The path of what leads nowhere and is not visited. -/
def missing? : Finding β → Option String
  | .missing path => some path
  | _ => none

theorem path_of_visited? {finding : Finding β} {place : String}
    (h : finding.visited? = some place) : finding.path = place := by
  cases finding <;> cases h
  rfl

theorem path_of_unlisted? {finding : Finding β} {place : String}
    (h : finding.unlisted? = some place) : finding.path = place := by
  cases finding <;> cases h
  rfl

theorem path_of_missing? {finding : Finding β} {place : String}
    (h : finding.missing? = some place) : finding.path = place := by
  cases finding <;> cases h
  rfl

/-- The failures are the visits that fail and, whatever the visits do, the directories
that were not listed and what leads nowhere.  The visits are those of the class files, in
order, and there are no others. -/
theorem tally_eq {m : Type → Type} [Monad m] [LawfulMonad m] (visit : String → m Bool)
    (findings : List (Finding β)) :
    tally visit findings =
      (fun answers => answers.count false + (findings.filterMap unlisted?).length +
          (findings.filterMap missing?).length) <$>
        (findings.filterMap visited?).mapM visit := by
  induction findings with
  | nil => simp [tally]
  | cons finding rest ih =>
    cases finding with
    | classFile path content =>
      have hvisited : (classFile path content :: rest).filterMap visited? =
          path :: rest.filterMap visited? := rfl
      have hunlisted : (classFile path content :: rest).filterMap unlisted? =
          rest.filterMap unlisted? := rfl
      have hmissing : (classFile path content :: rest).filterMap missing? =
          rest.filterMap missing? := rfl
      rw [tally, ih, hvisited, hunlisted, hmissing, List.mapM_cons]
      simp only [map_bind, bind_pure_comp, Functor.map_map]
      refine bind_congr fun succeeded => ?_
      congr 1
      funext answers
      cases succeeded with
      | false =>
        rw [if_neg Bool.false_ne_true, List.count_cons_self]
        omega
      | true =>
        rw [if_pos rfl, List.count_cons_of_ne (by decide)]
        omega
    | unlisted path reason =>
      have hunlisted : (unlisted path reason :: rest).filterMap unlisted? =
          path :: rest.filterMap unlisted? := rfl
      rw [tally, ih, hunlisted, bind_pure_comp, Functor.map_map]
      congr 1
      funext answers
      rw [List.length_cons, List.filterMap_cons_none rfl]
      omega
    | missing path =>
      have hmissing : (missing path :: rest).filterMap missing? =
          path :: rest.filterMap missing? := rfl
      rw [tally, ih, hmissing, bind_pure_comp, Functor.map_map]
      congr 1
      funext answers
      rw [List.length_cons, List.filterMap_cons_none rfl]
      omega

/-- A visit without effects fails where the finding counts as a failure. -/
theorem tally_pure (succeeds : String → Bool) (findings : List (Finding β)) :
    Id.run (tally (fun path => pure (succeeds path)) findings) =
      (findings.filter (isFailure succeeds)).length := by
  induction findings with
  | nil => rfl
  | cons finding rest ih =>
    cases finding with
    | classFile path content =>
      have hstep : Id.run (tally (fun path => pure (succeeds path))
          (classFile path content :: rest)) =
            (if succeeds path then 0 else 1) +
              Id.run (tally (fun path => pure (succeeds path)) rest) := rfl
      rw [hstep, ih, List.filter_cons, isFailure]
      cases succeeds path with
      | false => exact Nat.add_comm _ _
      | true => exact Nat.zero_add _
    | unlisted path reason => exact (congrArg (1 + ·) ih).trans (Nat.add_comm _ _)
    | missing path => exact (congrArg (1 + ·) ih).trans (Nat.add_comm _ _)

end Finding

namespace FileSystem

open FileTree (Reached classFile_mem_findingsAt_iff unlisted_mem_findingsAt_iff
  missing_mem_findingsAt_iff)

variable {α : Type} {refusal : String → Option String}

/-! ## Visits and failures -/

/-- The paths that a walk visits, in order. -/
def visits (system : FileSystem α) (refusal : String → Option String) (path : String) :
    List String :=
  (system.walk refusal path).filterMap Finding.visited?

/-- The directories that a walk gets to and that cannot be listed. -/
def refusedPlaces (system : FileSystem α) (refusal : String → Option String) (path : String) :
    Set String :=
  {place | (∃ entries, system.Reaches refusal path place (some (.directory entries))) ∧
    refusal place ≠ none}

/-- The paths that a walk gets to, that lead nowhere and that are not named like a class
file. -/
def lostPlaces (system : FileSystem α) (refusal : String → Option String) (path : String) :
    Set String :=
  {place | system.Reaches refusal path place none ∧ ¬ Path.isClassFile place}

/-- Where every directory can be listed, no listing is refused. -/
theorem refusedPlaces_eq_empty (system : FileSystem α) (path : String) :
    system.refusedPlaces (fun _ => none) path = ∅ := by
  simp [refusedPlaces]

section Places

variable {system : FileSystem α} {path place : String}

theorem mem_visits_iff :
    place ∈ system.visits refusal path ↔
      Path.isClassFile place ∧ ∃ sight, system.Reaches refusal path place sight ∧
        ∀ entries, sight ≠ some (.directory entries) := by
  rw [visits, List.mem_filterMap]
  constructor
  · rintro ⟨finding, hfinding, hvisited⟩
    obtain ⟨place', sight, hreaches, hat⟩ := mem_walk_iff.mp hfinding
    cases finding with
    | classFile found content =>
      cases hvisited
      obtain ⟨rfl, hname, hsight⟩ := classFile_mem_findingsAt_iff.mp hat
      exact ⟨hname, sight, hreaches, hsight⟩
    | unlisted found reason => cases hvisited
    | missing found => cases hvisited
  · rintro ⟨hname, sight, hreaches, hsight⟩
    refine ⟨.classFile place (), mem_walk_iff.mpr ⟨place, sight, hreaches, ?_⟩, rfl⟩
    exact classFile_mem_findingsAt_iff.mpr ⟨rfl, hname, hsight⟩

theorem mem_unlisted_iff :
    place ∈ (system.walk refusal path).filterMap Finding.unlisted? ↔
      place ∈ system.refusedPlaces refusal path := by
  rw [List.mem_filterMap]
  constructor
  · rintro ⟨finding, hfinding, hunlisted⟩
    obtain ⟨place', sight, hreaches, hat⟩ := mem_walk_iff.mp hfinding
    cases finding with
    | classFile found content => cases hunlisted
    | missing found => cases hunlisted
    | unlisted found reason =>
      cases hunlisted
      obtain ⟨rfl, hrefusal, entries, rfl⟩ := unlisted_mem_findingsAt_iff.mp hat
      exact ⟨⟨entries, hreaches⟩, by rw [hrefusal]; exact Option.some_ne_none reason⟩
  · rintro ⟨⟨entries, hreaches⟩, hrefusal⟩
    obtain ⟨reason, hreason⟩ := Option.ne_none_iff_exists'.mp hrefusal
    refine ⟨.unlisted place reason, mem_walk_iff.mpr ⟨place, _, hreaches, ?_⟩, rfl⟩
    exact unlisted_mem_findingsAt_iff.mpr ⟨rfl, hreason, entries, rfl⟩

theorem mem_missing_iff :
    place ∈ (system.walk refusal path).filterMap Finding.missing? ↔
      place ∈ system.lostPlaces refusal path := by
  rw [List.mem_filterMap]
  constructor
  · rintro ⟨finding, hfinding, hmissing⟩
    obtain ⟨place', sight, hreaches, hat⟩ := mem_walk_iff.mp hfinding
    cases finding with
    | classFile found content => cases hmissing
    | unlisted found reason => cases hmissing
    | missing found =>
      cases hmissing
      obtain ⟨rfl, rfl, hname⟩ := missing_mem_findingsAt_iff.mp hat
      exact ⟨hreaches, hname⟩
  · rintro ⟨hreaches, hname⟩
    refine ⟨.missing place, mem_walk_iff.mpr ⟨place, none, hreaches, ?_⟩, rfl⟩
    exact missing_mem_findingsAt_iff.mpr ⟨rfl, rfl, hname⟩

end Places

/-! ## Walks -/

section Walks

variable {system : FileSystem α} {path : String}

theorem ascending_visits (hroot : system.root.WellNamed) :
    Path.Ascending (system.visits refusal path) :=
  (ascending_walk hroot).filterMap Finding.path_of_visited?

theorem tally_walk (hroot : system.root.WellNamed) {m : Type → Type} [Monad m] [LawfulMonad m]
    (visit : String → m Bool) :
    Finding.tally visit (system.walk refusal path) =
      (fun answers => answers.count false + (system.refusedPlaces refusal path).ncard +
          (system.lostPlaces refusal path).ncard) <$>
        (system.visits refusal path).mapM visit := by
  have hascending : Finding.Ascending (system.walk refusal path) := ascending_walk hroot
  have hrefused := (hascending.filterMap Finding.path_of_unlisted?).length_eq_ncard
    fun _ => mem_unlisted_iff
  have hlost := (hascending.filterMap Finding.path_of_missing?).length_eq_ncard
    fun _ => mem_missing_iff
  rw [Finding.tally_eq, hrefused, hlost, visits]

/-- Where the path of every entry can be followed, nothing is lost but the path of the
walk itself. -/
theorem ncard_lostPlaces (hroot : system.root.WellNamed)
    (hfree : ∀ place sight, system.Reaches refusal path place sight → place ≠ path →
      ¬ system.isBlocked place) :
    (system.lostPlaces refusal path).ncard =
      if !(system.at? path).isOk && !Path.isClassFile path then 1 else 0 := by
  have hplaces : system.lostPlaces refusal path =
      {place | place = path ∧ (!(system.at? path).isOk && !Path.isClassFile path) = true} := by
    ext place
    constructor
    · rintro ⟨hreaches, hname⟩
      obtain ⟨e, he⟩ := hreaches.leadsTo hroot
      have hplace : place = path := by
        by_contra hne
        exact hfree place none hreaches hne (hreaches.eq_or_isBlocked.resolve_left hne)
      subst hplace
      refine ⟨rfl, ?_⟩
      rw [he, Bool.eq_false_of_not_eq_true hname]
      rfl
    · rintro ⟨rfl, hnowhere⟩
      rw [Bool.and_eq_true, Bool.not_eq_true', Bool.not_eq_true'] at hnowhere
      obtain ⟨hisOk, hname⟩ := hnowhere
      refine ⟨?_, Bool.eq_false_iff.mp hname⟩
      cases hpath : system.at? place with
      | ok node =>
        rw [hpath] at hisOk
        cases hisOk
      | error e => exact .nowhere hpath
  rw [hplaces]
  cases !(system.at? path).isOk && !Path.isClassFile path with
  | false => simp
  | true => simp

/-- A walk gets to nothing more if more directories cannot be listed. -/
theorem reached_of_refusal {refusal' : String → Option String}
    (hrefusal : ∀ directory, refusal' directory = none → refusal directory = none)
    {node : FileTree α} {place : String} {sight : Option (FileTree α)}
    (h : Reached system.isBlocked refusal' path node place sight) :
    Reached system.isBlocked refusal path node place sight := by
  induction h with
  | here path node => exact .here path node
  | step hlisted hmem hfree h ih => exact .step (hrefusal _ hlisted) hmem hfree ih
  | lost hlisted hmem hblocked => exact .lost (hrefusal _ hlisted) hmem hblocked

theorem Reaches.of_refusal {refusal' : String → Option String}
    (hrefusal : ∀ directory, refusal' directory = none → refusal directory = none)
    {place : String} {sight : Option (FileTree α)}
    (h : system.Reaches refusal' path place sight) : system.Reaches refusal path place sight := by
  cases h with
  | inside hpath hreached => exact .inside hpath (reached_of_refusal hrefusal hreached)
  | nowhere hpath => exact .nowhere hpath

/-- A place that a walk gets to is the same in every walk that gets to it. -/
theorem LeadsTo.eq {place : String} {sight sight' : Option (FileTree α)}
    (h : system.LeadsTo place sight) (h' : system.LeadsTo place sight') : sight = sight' := by
  cases sight with
  | none =>
    obtain ⟨e, he⟩ := h
    cases sight' with
    | none => rfl
    | some node => cases he.symm.trans h'
  | some node =>
    cases sight' with
    | none =>
      obtain ⟨e, he⟩ := h'
      cases he.symm.trans h
    | some node' =>
      have hnode : Except.ok node = Except.ok node' := h.symm.trans h'
      rw [Except.ok.inj hnode]

/-- A directory that cannot be listed takes away the visits below it and no others. -/
theorem mem_visits_iff_of_refusal (hroot : system.root.WellNamed)
    {refusal' : String → Option String}
    (hrefusal : ∀ directory, refusal' directory = none → refusal directory = none)
    {place : String} :
    place ∈ system.visits refusal' path ↔
      place ∈ system.visits refusal path ∧ ∃ sight, system.Reaches refusal' path place sight := by
  rw [mem_visits_iff, mem_visits_iff]
  constructor
  · rintro ⟨hname, sight, hreaches, hsight⟩
    exact ⟨⟨hname, sight, hreaches.of_refusal hrefusal, hsight⟩, sight, hreaches⟩
  · rintro ⟨⟨hname, sight, hreaches, hsight⟩, sight', hreaches'⟩
    obtain rfl := (hreaches.leadsTo hroot).eq (hreaches'.leadsTo hroot)
    exact ⟨hname, sight, hreaches', hsight⟩

/-- A walk visits the paths that it gets to, that are named like class files and that
lead to no directory.  The visits ascend, so that each of these paths is visited once.
The number of failures is that of the visits that fail, of the directories that could not
be listed, and of the paths that lead nowhere and are not named like class files; where
the path of every entry can be followed, the last is the path of the walk itself or none.
A walk from a directory is made of the walks from its entries, each of which is looked up
anew.  Whether visits succeed and whether directories can be listed changes nothing about
the rest of the walk. -/
theorem visits_ascend_and_tally_walk {system : FileSystem α} (hroot : system.root.WellNamed)
    (refusal : String → Option String) (path : String) :
    (∀ place sight, system.Reaches refusal path place sight → system.LeadsTo place sight) ∧
    (∀ place, place ∈ system.visits refusal path ↔
      Path.isClassFile place ∧ ∃ sight, system.Reaches refusal path place sight ∧
        ∀ entries, sight ≠ some (.directory entries)) ∧
    Path.Ascending (system.visits refusal path) ∧
    (∀ (m : Type → Type) [Monad m] [LawfulMonad m] (visit : String → m Bool),
      Finding.tally visit (system.walk refusal path) =
        (fun answers => answers.count false + (system.refusedPlaces refusal path).ncard +
            (system.lostPlaces refusal path).ncard) <$>
          (system.visits refusal path).mapM visit) ∧
    (∀ succeeds : String → Bool,
      ((system.walk refusal path).filter (Finding.isFailure succeeds)).length =
        Id.run (Finding.tally (fun place => pure (succeeds place)) (system.walk refusal path))) ∧
    ((∀ place sight, system.Reaches refusal path place sight → place ≠ path →
        ¬ system.isBlocked place) →
      (system.lostPlaces refusal path).ncard =
        if !(system.at? path).isOk && !Path.isClassFile path then 1 else 0) ∧
    (∀ entries, system.at? path = .ok (.directory entries) → refusal path = none →
      system.walk refusal path = FileTree.inOrder
        (entries.map fun (name, _) => (name, system.walk refusal (Path.join path name)))) ∧
    ∀ refusal' : String → Option String,
      (∀ directory, refusal' directory = none → refusal directory = none) →
      ∀ place, place ∈ system.visits refusal' path ↔
        place ∈ system.visits refusal path ∧
          ∃ sight, system.Reaches refusal' path place sight := by
  refine ⟨?_, fun place => mem_visits_iff, ascending_visits hroot, ?_, ?_, ncard_lostPlaces hroot,
    ?_, ?_⟩
  · intro place sight hreaches
    exact hreaches.leadsTo hroot
  · intro m _ _ visit
    exact tally_walk hroot visit
  · intro succeeds
    exact (Finding.tally_pure succeeds _).symm
  · intro entries hpath hlisted
    exact walk_of_directory hroot hpath hlisted
  · intro refusal' hrefusal place
    exact mem_visits_iff_of_refusal hroot hrefusal

end Walks

/-- A working directory with a class file in a directory, and another class file beside
it. -/
def classSystem : FileSystem Unit :=
  .ofEntries [("a", .directory [("x.class", .file ())]), ("a-b.class", .file ())] fun _ => none

/-- Visits that remember how many there were before; the first one succeeds. -/
def visitFirst (_ : String) : StateM Nat Bool := do
  let before ← get
  set (before + 1)
  return before == 0

/-- The refusal to list one directory. -/
def refuseOne (directory : String) : Option String :=
  if directory = "/work/a" then some "denied" else none

theorem classSystem_wellNamed : classSystem.root.WellNamed := by
  apply wellNamed_ofEntries
  simp only [FileTree.WellNamed, FileTree.EachWellNamed]
  decide

theorem at?_classSystem : classSystem.at? "/work" = .ok
    (.directory [("a", .directory [("x.class", .file ())]), ("a-b.class", .file ())]) :=
  rfl

theorem visits_classSystem :
    classSystem.visits (fun _ => none) "/work" = ["/work/a/x.class", "/work/a-b.class"] := by
  rw [visits, walk, at?_classSystem]
  simp only [FileTree.findings, FileTree.entryFindings, FileTree.inOrder,
    List.mergeSort_singleton]
  rw [List.mergeSort_of_pairwise (by decide)]
  rfl

theorem not_isBlocked_of_reaches_classSystem {place : String} {sight : Option (FileTree Unit)}
    (h : classSystem.Reaches (fun _ => none) "/work" place sight) :
    ¬ classSystem.isBlocked place := by
  cases h with
  | nowhere herror => cases at?_classSystem.symm.trans herror
  | inside hnode hreached =>
    cases at?_classSystem.symm.trans hnode
    cases hreached with
    | here => decide
    | lost hlisted hmem hblocked =>
      simp only [List.mem_cons, Prod.mk.injEq, List.not_mem_nil, or_false] at hmem
      rcases hmem with ⟨rfl, rfl⟩ | ⟨rfl, rfl⟩ <;> exact absurd hblocked (by decide)
    | step hlisted hmem hfree hreached =>
      simp only [List.mem_cons, Prod.mk.injEq, List.not_mem_nil, or_false] at hmem
      rcases hmem with ⟨rfl, rfl⟩ | ⟨rfl, rfl⟩
      · cases hreached with
        | here => decide
        | lost hlisted hmem hblocked =>
          obtain ⟨rfl, rfl⟩ := Prod.mk.inj (List.mem_singleton.mp hmem)
          exact absurd hblocked (by decide)
        | step hlisted hmem hfree hreached =>
          obtain ⟨rfl, rfl⟩ := Prod.mk.inj (List.mem_singleton.mp hmem)
          cases hreached
          decide
      · cases hreached
        decide

theorem tally_classSystem :
    classSystem.root.WellNamed ∧
    classSystem.visits (fun _ => none) "/work" = ["/work/a/x.class", "/work/a-b.class"] ∧
    Path.Ascending ["/work/a/x.class", "/work/a-b.class"] ∧
    Finding.tally visitFirst (classSystem.walk (fun _ => none) "/work") =
      (fun answers => answers.count false +
          (classSystem.refusedPlaces (fun _ => none) "/work").ncard +
          (classSystem.lostPlaces (fun _ => none) "/work").ncard) <$>
        ["/work/a/x.class", "/work/a-b.class"].mapM visitFirst ∧
    (∀ place sight, classSystem.Reaches (fun _ => none) "/work" place sight → place ≠ "/work" →
      ¬ classSystem.isBlocked place) ∧
    (classSystem.lostPlaces (fun _ => none) "/work").ncard = 0 ∧
    classSystem.at? "/work" = .ok
      (.directory [("a", .directory [("x.class", .file ())]), ("a-b.class", .file ())]) ∧
    classSystem.walk (fun _ => none) "/work" = FileTree.inOrder
      [("a", classSystem.walk (fun _ => none) "/work/a"),
        ("a-b.class", classSystem.walk (fun _ => none) "/work/a-b.class")] ∧
    (∀ directory, refuseOne directory = none → (none : Option String) = none) ∧
    ("/work/a-b.class" ∈ classSystem.visits refuseOne "/work" ↔
      "/work/a-b.class" ∈ classSystem.visits (fun _ => none) "/work" ∧
        ∃ sight, classSystem.Reaches refuseOne "/work" "/work/a-b.class" sight) := by
  obtain ⟨-, -, hascending, htally, -, hlost, hentries, hrefusal⟩ :=
    visits_ascend_and_tally_walk classSystem_wellNamed (fun _ => none) "/work"
  have hfree : ∀ place sight, classSystem.Reaches (fun _ => none) "/work" place sight →
      place ≠ "/work" → ¬ classSystem.isBlocked place :=
    fun place sight hreaches _ => not_isBlocked_of_reaches_classSystem hreaches
  have hvisit := htally (StateM Nat) visitFirst
  rw [visits_classSystem] at hascending hvisit
  exact ⟨classSystem_wellNamed, visits_classSystem, hascending, hvisit, hfree,
    hlost hfree, at?_classSystem, hentries _ at?_classSystem rfl, fun _ _ => rfl,
    hrefusal refuseOne (fun _ _ => rfl) "/work/a-b.class"⟩

end FileSystem

/-! ## Paths that are too long -/

namespace Path

/-- The path of an entry is not shorter than those of its directory and its name together. -/
theorem utf8ByteSize_le_join (path name : String) :
    path.utf8ByteSize + name.utf8ByteSize ≤ (join path name).utf8ByteSize := by
  rw [join]
  split
  · rw [String.utf8ByteSize_append]
  · rw [String.utf8ByteSize_append, String.utf8ByteSize_append]
    omega

/-- A path of dots. -/
def dots (n : Nat) : String := String.join (List.replicate n "./")

theorem utf8ByteSize_dots (n : Nat) : (dots n).utf8ByteSize = 2 * n := by
  induction n with
  | zero => rfl
  | succ n ih =>
    have hstep : dots (n + 1) = "./" ++ dots n := String.join_cons
    have htwo : "./".utf8ByteSize = 2 := rfl
    rw [hstep, String.utf8ByteSize_append, ih, htwo]
    omega

theorem segments_dots (n : Nat) : segments (dots n) = List.replicate n "." ++ [""] := by
  induction n with
  | zero => rfl
  | succ n ih =>
    have hstep : (dots (n + 1)).toList = ['.'] ++ '/' :: (dots n).toList := by
      rw [dots, List.replicate_succ, String.join_cons, String.toList_append]
      rfl
    rw [segments, hstep, split_append_slash, List.map_append, ← segments, ih]
    rfl

end Path

namespace FileSystem

open FileTree (unreached)

variable {α : Type}

theorem follow_dots (above : List (FileTree α)) (entries : List (String × FileTree α)) (n : Nat) :
    FileTree.follow above (.directory entries) (List.replicate n "." ++ [""]) =
      .ok (.directory entries) := by
  induction n with
  | zero => rfl
  | succ n ih => exact ih

/-- Dots lead from the working directory to itself. -/
theorem at?_dots {n : Nat} (hpos : 0 < n) (hlength : 2 * n ≤ Path.maxLength)
    (entries : List (String × FileTree α)) :
    (ofEntries entries fun _ => none).at? (Path.dots n) = .ok (.directory entries) := by
  obtain ⟨k, rfl⟩ := Nat.exists_eq_add_one.mpr hpos
  have hstep : Path.dots (k + 1) = "./" ++ Path.dots k := String.join_cons
  have hfree : (ofEntries entries fun _ => none).isBlocked (Path.dots (k + 1)) = false := by
    simpa [isBlocked, ofEntries, Path.isTooLong, Path.utf8ByteSize_dots] using hlength
  have hrelative : ¬ Path.isAbsolute (Path.dots (k + 1)) := by
    rw [hstep, Path.isAbsolute, String.toList_append]
    simp
  refine at?_eq_ok_iff.mpr ⟨by simp [hstep], hfree, ?_⟩
  rw [segments, if_neg hrelative, Path.segments_dots]
  exact follow_dots _ entries (k + 1)

/-- A working directory with a file that is not named like a class file. -/
def noteSystem (content : α) : FileSystem α := .ofEntries [("n.txt", .file content)] fun _ => none

theorem noteSystem_wellNamed (content : α) : (noteSystem content).root.WellNamed := by
  have hnote : (FileTree.directory [("n.txt", .file content)]).WellNamed :=
    ⟨List.nodup_singleton _, by decide, trivial, trivial⟩
  exact wellNamed_ofEntries hnote _

/-- A path of 4094 bytes that leads to where it starts from. -/
def longPath : String := Path.dots 2047

theorem at?_longPath (content : α) :
    (noteSystem content).at? longPath = .ok (.directory [("n.txt", .file content)]) :=
  at?_dots (by decide) (by decide) _

theorem isBlocked_longPath (content : α) :
    (noteSystem content).isBlocked (Path.join longPath "n.txt") := by
  have hle := Path.utf8ByteSize_le_join longPath "n.txt"
  have hsize : longPath.utf8ByteSize = 4094 := Path.utf8ByteSize_dots 2047
  have hname : "n.txt".utf8ByteSize = 5 := rfl
  have hlong : Path.isTooLong (Path.join longPath "n.txt") = true := by
    rw [Path.isTooLong, decide_eq_true_iff, Path.maxLength]
    omega
  rw [isBlocked, hlong, Bool.true_or]

/-- The file in the directory counts as missing, since its path is too long. -/
theorem walk_longPath (content : α) :
    (noteSystem content).walk (fun _ => none) longPath =
      [.missing (Path.join longPath "n.txt")] := by
  have hclass : ¬ Path.isClassFile (Path.join longPath "n.txt") = true := by
    rw [Path.isClassFile_join longPath (by decide)]
    decide
  have hblocked : ∀ name entry, (name, entry) ∈ [("n.txt", FileTree.file content)] →
      (noteSystem content).isBlocked (Path.join longPath name) := by
    intro name entry hmem
    obtain ⟨rfl, -⟩ := Prod.mk.inj (List.mem_singleton.mp hmem)
    exact isBlocked_longPath content
  have hwalk : (noteSystem content).walk (fun _ => none) longPath =
      FileTree.inOrder [("n.txt", unreached (Path.join longPath "n.txt"))] :=
    walk_of_unsearchable (at?_longPath content) rfl hblocked
  rw [hwalk, unreached, if_neg hclass]
  exact congrArg (List.flatMap Prod.snd) (List.mergeSort_singleton _)

theorem visits_longPath (content : α) :
    (noteSystem content).visits (fun _ => none) longPath = [] := by
  rw [visits, walk_longPath]
  rfl

/-- A file that is not named like a class file counts as a failure if its path is too
long, although the walk starts at a directory, every directory can be listed and every
visit succeeds. -/
theorem length_filter_isFailure_longPath :
    (noteSystem ()).root.WellNamed ∧
    (noteSystem ()).at? longPath = .ok (.directory [("n.txt", .file ())]) ∧
    (((noteSystem ()).walk (fun _ => none) longPath).filter
        (Finding.isFailure fun _ => true)).length = 1 ∧
    (((noteSystem ()).walk (fun _ => none) longPath).filter
        (Finding.isFailure fun _ => true)).length ≠
      (((noteSystem ()).visits (fun _ => none) longPath).map fun _ => true).count false +
        ((noteSystem ()).refusedPlaces (fun _ => none) longPath).ncard +
        if !((noteSystem ()).at? longPath).isOk && !Path.isClassFile longPath then 1 else 0 := by
  have hfailures : (((noteSystem ()).walk (fun _ => none) longPath).filter
      (Finding.isFailure fun _ => true)).length = 1 := by
    rw [walk_longPath]
    rfl
  refine ⟨noteSystem_wellNamed (), at?_longPath (), hfailures, ?_⟩
  rw [hfailures, visits_longPath, refusedPlaces_eq_empty, at?_longPath, Set.ncard_empty]
  exact Nat.one_ne_zero

end FileSystem

end ClassOutline
