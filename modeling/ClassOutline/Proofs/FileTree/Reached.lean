/-
  Proofs/FileTree/Reached.lean --- what a walk gets to.

  A walk gets to a path and what it leads to, or to a path that leads nowhere.  From a
  directory that can be listed it gets on to the entries.  What it meets is told by what
  it gets to, one place at a time; and a place that it gets to is where its path leads
  when it is looked up by itself, so that a walk is made of the walks from the entries.
-/
import ClassOutline.FileTree.Walk
import ClassOutline.Proofs.FileTree.Lookup

set_option autoImplicit false

namespace ClassOutline

namespace FileTree

variable {α : Type}

/-! ## Induction on trees -/

/-- What holds of files, and of a directory if it holds of each of its entries, holds of
all trees. -/
@[elab_as_elim]
theorem induction {motive : FileTree α → Prop} (file : ∀ content, motive (.file content))
    (directory : ∀ entries, (∀ name entry, (name, entry) ∈ entries → motive entry) →
      motive (.directory entries)) : ∀ tree, motive tree
  | .file content => file content
  | .directory entries => directory entries fun name entry _hmem => induction file directory entry
termination_by tree => sizeOf tree
decreasing_by
  have hlt := List.sizeOf_lt_of_mem _hmem
  simp only [Prod.mk.sizeOf_spec, FileTree.directory.sizeOf_spec] at hlt ⊢
  omega

/-! ## Places -/

/-- From a tree at a path, what a walk gets to at which path: a tree, or `none` where the
path of an entry cannot be followed. -/
inductive Reached (blocked : String → Bool) (refusal : String → Option String) :
    String → FileTree α → String → Option (FileTree α) → Prop where
  | here (path : String) (tree : FileTree α) : Reached blocked refusal path tree path (some tree)
  | step {path : String} {entries : List (String × FileTree α)} {name : String}
      {entry : FileTree α} {place : String} {sight : Option (FileTree α)}
      (hlisted : refusal path = none) (hmem : (name, entry) ∈ entries)
      (hfree : blocked (Path.join path name) = false)
      (h : Reached blocked refusal (Path.join path name) entry place sight) :
    Reached blocked refusal path (.directory entries) place sight
  | lost {path : String} {entries : List (String × FileTree α)} {name : String}
      {entry : FileTree α} (hlisted : refusal path = none) (hmem : (name, entry) ∈ entries)
      (hblocked : blocked (Path.join path name)) :
    Reached blocked refusal path (.directory entries) (Path.join path name) none

/-- What is met at one place, whatever lies below it. -/
def findingsAt (refusal : String → Option String) (place : String) :
    Option (FileTree α) → List (Finding Unit)
  | none => unreached place
  | some (.file _) => if Path.isClassFile place then [.classFile place ()] else []
  | some (.directory _) => (refusal place).toList.map (.unlisted place)

/-- What is met in the entry of a name in the directory at a path. -/
def findingsBelow (blocked : String → Bool) (refusal : String → Option String)
    (path name : String) (entry : FileTree α) : List (Finding Unit) :=
  if blocked (Path.join path name) then unreached (Path.join path name)
  else findings blocked refusal (Path.join path name) entry

/-! ## What is met at a place -/

section At

variable {refusal : String → Option String} {place place' : String} {sight : Option (FileTree α)}

/-- A class file is met at a place that is named like one and holds no directory. -/
theorem classFile_mem_findingsAt_iff :
    .classFile place () ∈ findingsAt refusal place' sight ↔
      place = place' ∧ Path.isClassFile place ∧ ∀ entries, sight ≠ some (.directory entries) := by
  rcases sight with _ | (content | entries)
  · rw [findingsAt, unreached]
    split
    · next hname => simp +contextual [hname]
    · next hname => simp +contextual [hname]
  · rw [findingsAt]
    split
    · next hname => simp +contextual [hname]
    · next hname => simp +contextual [hname]
  · simp [findingsAt]

/-- A refusal is met at a directory that cannot be listed. -/
theorem unlisted_mem_findingsAt_iff {reason : String} :
    .unlisted place reason ∈ findingsAt refusal place' sight ↔
      place = place' ∧ refusal place = some reason ∧
        ∃ entries, sight = some (.directory entries) := by
  rcases sight with _ | (content | entries)
  · rw [findingsAt, unreached]
    split <;> simp
  · rw [findingsAt]
    split <;> simp
  · rw [findingsAt, List.mem_map]
    simp only [Option.mem_toList, Finding.unlisted.injEq]
    constructor
    · rintro ⟨_, hrefusal, rfl, rfl⟩
      exact ⟨rfl, hrefusal, entries, rfl⟩
    · rintro ⟨rfl, hrefusal, -⟩
      exact ⟨reason, hrefusal, rfl, rfl⟩

/-- Nothing is met at a place that leads nowhere and is not named like a class file. -/
theorem missing_mem_findingsAt_iff :
    .missing place ∈ findingsAt refusal place' sight ↔
      place = place' ∧ sight = none ∧ ¬ Path.isClassFile place := by
  rcases sight with _ | (content | entries)
  · rw [findingsAt, unreached]
    split
    · next hname => simp +contextual [hname]
    · next hname => simp +contextual [hname]
  · rw [findingsAt]
    split <;> simp
  · simp [findingsAt]

end At

/-! ## What is met in a tree -/

section Met

variable {blocked : String → Bool} {refusal : String → Option String} {finding : Finding Unit}

theorem entryFindings_eq_map (path : String) (entries : List (String × FileTree α)) :
    entryFindings blocked refusal path entries =
      entries.map fun (name, entry) => (name, findingsBelow blocked refusal path name entry) := by
  induction entries with
  | nil => rfl
  | cons first rest ih =>
    rw [entryFindings, List.map_cons, ih]
    rfl

/-- Entries are gone through by their names. -/
theorem pairwise_mergeSort_names (found : List (String × List (Finding Unit))) :
    (found.mergeSort fun a b => decide (a.1 ≤ b.1)).Pairwise fun a b => decide (a.1 ≤ b.1) := by
  apply List.pairwise_mergeSort
  · intro a b c hab hbc
    exact decide_eq_true (String.le_trans (of_decide_eq_true hab) (of_decide_eq_true hbc))
  · intro a b
    simpa using String.le_total a.1 b.1

theorem mem_inOrder {found : List (String × List (Finding Unit))} :
    finding ∈ inOrder found ↔ ∃ entry ∈ found, finding ∈ entry.2 := by
  rw [inOrder, List.mem_flatMap]
  simp only [List.mem_mergeSort]

theorem mem_inOrder_entryFindings {path : String} {entries : List (String × FileTree α)} :
    finding ∈ inOrder (entryFindings blocked refusal path entries) ↔
      ∃ name entry, (name, entry) ∈ entries ∧
        finding ∈ findingsBelow blocked refusal path name entry := by
  rw [mem_inOrder, entryFindings_eq_map]
  constructor
  · rintro ⟨_, hfound, h⟩
    obtain ⟨⟨name, entry⟩, hmem, rfl⟩ := List.mem_map.mp hfound
    exact ⟨name, entry, hmem, h⟩
  · rintro ⟨name, entry, hmem, h⟩
    exact ⟨_, List.mem_map.mpr ⟨(name, entry), hmem, rfl⟩, h⟩

/-- What is met in a tree is what is met at the places reached from it. -/
theorem mem_findings_iff {path : String} {tree : FileTree α} :
    finding ∈ findings blocked refusal path tree ↔
      ∃ place sight, Reached blocked refusal path tree place sight ∧
        finding ∈ findingsAt refusal place sight := by
  induction tree using induction generalizing path with
  | file content =>
    constructor
    · exact fun h => ⟨path, _, .here path _, h⟩
    · rintro ⟨place, sight, hreached, h⟩
      cases hreached
      exact h
  | directory entries ih =>
    rw [findings]
    cases hrefusal : refusal path with
    | some reason =>
      constructor
      · intro h
        exact ⟨path, _, .here path _, by simpa [findingsAt, hrefusal] using h⟩
      · rintro ⟨place, sight, hreached, h⟩
        cases hreached with
        | here => simpa [findingsAt, hrefusal] using h
        | step hlisted => simp [hrefusal] at hlisted
        | lost hlisted => simp [hrefusal] at hlisted
    | none =>
      rw [mem_inOrder_entryFindings]
      constructor
      · rintro ⟨name, entry, hmem, h⟩
        rw [findingsBelow] at h
        split at h
        · next hblocked => exact ⟨_, none, .lost hrefusal hmem hblocked, h⟩
        · next hfree =>
          obtain ⟨place, sight, hreached, h⟩ := (ih name entry hmem).mp h
          exact ⟨place, sight, .step hrefusal hmem (eq_false_of_ne_true hfree) hreached, h⟩
      · rintro ⟨place, sight, hreached, h⟩
        cases hreached with
        | here => simp [findingsAt, hrefusal] at h
        | @step _ _ name entry _ _ _ hmem hfree hreached =>
          refine ⟨name, entry, hmem, ?_⟩
          rw [findingsBelow, hfree, if_neg Bool.false_ne_true]
          exact (ih name entry hmem).mpr ⟨place, sight, hreached, h⟩
        | @lost _ _ name entry _ hmem hblocked =>
          refine ⟨name, entry, hmem, ?_⟩
          rw [findingsBelow, if_pos hblocked]
          exact h

end Met

end FileTree

/-! ## What a walk reaches -/

namespace FileSystem

open FileTree (Reached findingsAt unreached)

variable {α : Type} {system : FileSystem α} {refusal : String → Option String}
  {path place : String} {sight : Option (FileTree α)}

/-- What a walk from a path gets to at which path. -/
inductive Reaches (system : FileSystem α) (refusal : String → Option String) (path : String) :
    String → Option (FileTree α) → Prop where
  | inside {node : FileTree α} {place : String} {sight : Option (FileTree α)}
      (hpath : system.at? path = .ok node)
      (h : Reached system.isBlocked refusal path node place sight) :
    Reaches system refusal path place sight
  | nowhere {e : LookupError} (hpath : system.at? path = .error e) :
    Reaches system refusal path path none

/-- What a walk meets is what is met at the places that it reaches. -/
theorem mem_walk_iff {finding : Finding Unit} :
    finding ∈ system.walk refusal path ↔
      ∃ place sight, system.Reaches refusal path place sight ∧
        finding ∈ findingsAt refusal place sight := by
  rw [walk]
  cases hpath : system.at? path with
  | ok node =>
    simp only [FileTree.mem_findings_iff]
    constructor
    · rintro ⟨place, sight, hreached, h⟩
      exact ⟨place, sight, .inside hpath hreached, h⟩
    · rintro ⟨place, sight, hreaches, h⟩
      cases hreaches with
      | inside hnode hreached =>
        cases hpath.symm.trans hnode
        exact ⟨place, sight, hreached, h⟩
      | nowhere herror => cases hpath.symm.trans herror
  | error e =>
    constructor
    · exact fun h => ⟨path, none, .nowhere hpath, h⟩
    · rintro ⟨place, sight, hreaches, h⟩
      cases hreaches with
      | inside hnode => cases hpath.symm.trans hnode
      | nowhere => exact h

/-- What a walk gets to below a path and cannot look up cannot be followed. -/
theorem isBlocked_of_reached_none {node : FileTree α}
    (h : Reached system.isBlocked refusal path node place none) : system.isBlocked place := by
  generalize hsight : (none : Option (FileTree α)) = sight at h
  induction h with
  | here => cases hsight
  | step hlisted hmem hfree h ih => exact ih hsight
  | lost hlisted hmem hblocked => exact hblocked

/-- A path that a walk gets to leads somewhere, unless it is the path of the walk itself or
cannot be followed. -/
theorem Reaches.eq_or_isBlocked (h : system.Reaches refusal path place none) :
    place = path ∨ system.isBlocked place := by
  cases h with
  | inside hpath hreached => exact .inr (isBlocked_of_reached_none hreached)
  | nowhere hpath => exact .inl rfl

/-! ## Where places are -/

/-- Whether a path leads to what a walk got to, or nowhere if that is `none`. -/
def LeadsTo (system : FileSystem α) (path : String) : Option (FileTree α) → Prop
  | some node => system.at? path = .ok node
  | none => ∃ e, system.at? path = .error e

theorem leadsTo_of_reached {node : FileTree α}
    (h : Reached system.isBlocked refusal path node place sight) (hnode : node.WellNamed)
    (hpath : system.at? path = .ok node) : system.LeadsTo place sight := by
  induction h with
  | here path node => exact hpath
  | step hlisted hmem hfree h ih =>
    obtain ⟨hname, hentry⟩ := hnode.2.of_mem hmem
    exact ih hentry (system.at?_join hpath hnode.1 hname hmem hfree)
  | lost hlisted hmem hblocked => exact at?_eq_error_of_isBlocked hblocked

/-- The path of a place leads to what a walk gets to there. -/
theorem Reaches.leadsTo (hroot : system.root.WellNamed)
    (h : system.Reaches refusal path place sight) : system.LeadsTo place sight := by
  cases h with
  | inside hpath hreached => exact leadsTo_of_reached hreached (wellNamed_of_at? hroot hpath) hpath
  | nowhere hpath => exact ⟨_, hpath⟩

/-! ## Walks from directories -/

section Directories

variable {entries : List (String × FileTree α)}

/-- From a directory that can be listed a walk goes on to the entries, by the order of their
names. -/
theorem walk_eq_inOrder (hpath : system.at? path = .ok (.directory entries))
    (hlisted : refusal path = none) :
    system.walk refusal path = FileTree.inOrder (entries.map fun (name, entry) =>
      (name, FileTree.findingsBelow system.isBlocked refusal path name entry)) := by
  rw [walk, hpath, ← FileTree.entryFindings_eq_map]
  simp only [FileTree.findings, hlisted]

/-- In a directory that can be listed but not searched, nothing is there at the path of any
entry. -/
theorem walk_of_unsearchable (hpath : system.at? path = .ok (.directory entries))
    (hlisted : refusal path = none)
    (hblocked : ∀ name entry, (name, entry) ∈ entries → system.isBlocked (Path.join path name)) :
    system.walk refusal path = FileTree.inOrder
      (entries.map fun (name, _) => (name, unreached (Path.join path name))) := by
  rw [walk_eq_inOrder hpath hlisted]
  congr 1
  refine List.map_congr_left ?_
  rintro ⟨name, entry⟩ hmem
  exact congrArg (Prod.mk name) (if_pos (hblocked name entry hmem))

/-- A walk looks up every path anew: what it meets in an entry is what a walk from the path
of the entry meets. -/
theorem walk_join (hroot : system.root.WellNamed)
    (hpath : system.at? path = .ok (.directory entries)) {name : String} {entry : FileTree α}
    (hmem : (name, entry) ∈ entries) :
    system.walk refusal (Path.join path name) =
      FileTree.findingsBelow system.isBlocked refusal path name entry := by
  obtain ⟨hdistinct, hentries⟩ := wellNamed_of_at? hroot hpath
  obtain ⟨hname, -⟩ := hentries.of_mem hmem
  unfold walk FileTree.findingsBelow
  cases hblocked : system.isBlocked (Path.join path name) with
  | true =>
    obtain ⟨e, he⟩ := at?_eq_error_of_isBlocked hblocked
    rw [he, if_pos rfl]
  | false =>
    rw [at?_join hpath hdistinct hname hmem hblocked, if_neg Bool.false_ne_true]

/-- From a directory that can be listed a walk is made of the walks from its entries, by the
order of their names. -/
theorem walk_of_directory (hroot : system.root.WellNamed)
    (hpath : system.at? path = .ok (.directory entries)) (hlisted : refusal path = none) :
    system.walk refusal path = FileTree.inOrder
      (entries.map fun (name, _) => (name, system.walk refusal (Path.join path name))) := by
  rw [walk_eq_inOrder hpath hlisted]
  congr 1
  refine List.map_congr_left ?_
  rintro ⟨name, entry⟩ hmem
  exact congrArg (Prod.mk name) (walk_join hroot hpath hmem).symm

end Directories

end FileSystem

end ClassOutline
