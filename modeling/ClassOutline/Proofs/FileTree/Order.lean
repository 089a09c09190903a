/-
  Proofs/FileTree/Order.lean --- the order in which a walk meets things.

  Paths are compared component by component.  A walk goes through a directory by the
  names of its entries, and everything that it meets in an entry has the components of
  the entry in front, so what it meets ascends strictly.  Hence nothing is met twice, and
  what is met can be counted by the places at which it is met.
-/
import Mathlib.Data.Set.Card
import ClassOutline.Proofs.FileTree.Reached

set_option autoImplicit false

namespace ClassOutline

/-! ## Components -/

namespace Path

/-- The segments by which paths are compared: neither the empty ones nor the dots. -/
def components (path : String) : List String :=
  (segments path).filter fun segment => segment != "" && segment != "."

theorem components_join {path name : String} (hname : IsName name) :
    components (join path name) = components path ++ [name] := by
  have hkept : [name].filter (fun segment => segment != "" && segment != ".") = [name] := by
    simp [hname.ne_empty, hname.ne_dot]
  by_cases hpath : path = ""
  · have hjoin : join path name = name := by
      rw [hpath]
      exact String.empty_append
    have hsegments : segments name = [name] := by
      rw [segments, split_of_slash_not_mem hname.slash_not_mem, List.map_singleton,
        String.ofList_toList]
    have hempty : components path = [] := by
      rw [hpath]
      rfl
    rw [hjoin, hempty, components, hsegments, hkept, List.nil_append]
  · rcases segments_join hpath hname with hsegments | ⟨front, hfront, hsegments⟩
    · rw [components, hsegments, List.filter_append, hkept, components]
    · rw [components, hsegments, List.filter_append, hkept, components, hfront, List.filter_append]
      simp

/-- An entry is named like a class file by its name alone. -/
theorem isClassFile_join (path : String) {name : String} (hname : IsName name) :
    isClassFile (join path name) = (extension? name == some "class") := by
  have hcomponents : components (join path name) = components path ++ [name] :=
    components_join hname
  have hlast : ((segments (join path name)).filter fun s => s != "" && s != ".").getLast? =
      some name :=
    (congrArg List.getLast? hcomponents).trans List.getLast?_concat
  rw [isClassFile, fileName?, hlast]
  simp only [if_neg hname.ne_dots, Option.bind_some]

/-- Paths below different entries of a directory stand in the order of the entries'
names. -/
theorem components_lt {path path' name name' : String} {front : List String} (hlt : name < name')
    (h : front ++ [name] <+: components path) (h' : front ++ [name'] <+: components path') :
    components path < components path' := by
  obtain ⟨back, hback⟩ := h
  obtain ⟨back', hback'⟩ := h'
  rw [← hback, ← hback', List.append_assoc, List.append_assoc]
  exact List.Lex.append_left _ (List.Lex.rel hlt) front

theorem not_components_lt_self (path : String) : ¬ components path < components path :=
  List.lex_irrefl String.lt_irrefl _

/-- Paths that ascend strictly, compared component by component. -/
def Ascending (paths : List String) : Prop :=
  paths.Pairwise fun a b => components a < components b

section Ascending

variable {paths : List String}

theorem Ascending.nodup (h : Ascending paths) : paths.Nodup := by
  refine h.imp ?_
  rintro a _ hlt rfl
  exact not_components_lt_self a hlt

/-- Ascending paths are as many as the places that they are. -/
theorem Ascending.length_eq_ncard (h : Ascending paths) {places : Set String}
    (hmem : ∀ path, path ∈ paths ↔ path ∈ places) : paths.length = places.ncard := by
  have hplaces : places = ↑paths.toFinset := by
    ext path
    rw [← hmem, List.coe_toFinset]
    rfl
  rw [hplaces, Set.ncard_coe_finset, List.toFinset_card_of_nodup h.nodup]

end Ascending

end Path

/-! ## Findings -/

namespace Finding

variable {β : Type}

/-- The path at which something is met. -/
def path : Finding β → String
  | .classFile path _ => path
  | .unlisted path _ => path
  | .missing path => path

theorem path_withContent {γ : Type} (content : String → γ) (finding : Finding β) :
    (finding.withContent content).path = finding.path := by
  cases finding <;> rfl

/-- Findings whose paths ascend strictly. -/
def Ascending (findings : List (Finding β)) : Prop :=
  findings.Pairwise fun a b => Path.components a.path < Path.components b.path

/-- The paths that are picked from ascending findings ascend. -/
theorem Ascending.filterMap {findings : List (Finding β)} (h : Ascending findings)
    {pick : Finding β → Option String}
    (hpick : ∀ {finding place}, pick finding = some place → finding.path = place) :
    Path.Ascending (findings.filterMap pick) := by
  refine List.Pairwise.filterMap pick ?_ h
  intro finding finding' hlt place hplace place' hplace'
  rwa [hpick hplace, hpick hplace'] at hlt

end Finding

/-! ## The order of a walk -/

namespace FileTree

variable {α : Type} {blocked : String → Bool} {refusal : String → Option String}

/-- A walk gets to nothing but what lies below where it starts. -/
theorem Reached.components_prefix {path place : String} {tree : FileTree α}
    {sight : Option (FileTree α)} (h : Reached blocked refusal path tree place sight)
    (htree : tree.WellNamed) : Path.components path <+: Path.components place := by
  induction h with
  | here path tree => exact List.prefix_rfl
  | step hlisted hmem hfree h ih =>
    obtain ⟨hname, hentry⟩ := htree.2.of_mem hmem
    refine List.IsPrefix.trans ?_ (ih hentry)
    rw [Path.components_join hname]
    exact List.prefix_append _ _
  | lost hlisted hmem hblocked =>
    rw [Path.components_join (htree.2.of_mem hmem).1]
    exact List.prefix_append _ _

theorem path_of_mem_unreached {finding : Finding Unit} {place : String}
    (h : finding ∈ unreached place) : finding.path = place := by
  rw [unreached] at h
  split at h
  · cases List.mem_singleton.mp h
    rfl
  · cases List.mem_singleton.mp h
    rfl

theorem path_of_mem_findingsAt {finding : Finding Unit} {place : String}
    {sight : Option (FileTree α)} (h : finding ∈ findingsAt refusal place sight) :
    finding.path = place := by
  cases finding with
  | classFile found content => exact (classFile_mem_findingsAt_iff.mp h).1
  | unlisted found reason => exact (unlisted_mem_findingsAt_iff.mp h).1
  | missing found => exact (missing_mem_findingsAt_iff.mp h).1

/-- What is met in a tree is met below the path of the tree. -/
theorem components_prefix_of_mem_findings {path : String} {tree : FileTree α}
    (htree : tree.WellNamed) {finding : Finding Unit}
    (h : finding ∈ findings blocked refusal path tree) :
    Path.components path <+: Path.components finding.path := by
  obtain ⟨place, sight, hreached, hfinding⟩ := mem_findings_iff.mp h
  rw [path_of_mem_findingsAt hfinding]
  exact hreached.components_prefix htree

theorem components_prefix_of_mem_findingsBelow {path name : String} {entry : FileTree α}
    (hname : Path.IsName name) (hentry : entry.WellNamed) {finding : Finding Unit}
    (h : finding ∈ findingsBelow blocked refusal path name entry) :
    Path.components path ++ [name] <+: Path.components finding.path := by
  rw [← Path.components_join hname]
  rw [findingsBelow] at h
  split at h
  · rw [path_of_mem_unreached h]
  · exact components_prefix_of_mem_findings hentry h

/-- Entries with distinct names ascend strictly once they are in order. -/
theorem pairwise_lt_mergeSort {found : List (String × List (Finding Unit))}
    (hnames : (found.map Prod.fst).Nodup) :
    (found.mergeSort fun a b => decide (a.1 ≤ b.1)).Pairwise fun a b => a.1 < b.1 := by
  have hsorted := pairwise_mergeSort_names found
  have hdistinct : (found.mergeSort fun a b => decide (a.1 ≤ b.1)).Pairwise
      fun a b => a.1 ≠ b.1 := by
    rw [← List.pairwise_map (f := Prod.fst) (R := (· ≠ ·))]
    exact ((List.mergeSort_perm found _).map Prod.fst).nodup_iff.mpr hnames
  refine hsorted.imp₂ ?_ hdistinct
  intro a b hle hne
  rw [← String.not_le]
  exact fun hge => hne (String.le_antisymm (of_decide_eq_true hle) hge)

theorem ascending_unreached (place : String) : Finding.Ascending (unreached place) := by
  rw [unreached]
  split <;> exact List.pairwise_singleton _ _

/-- Everything that is met in a tree is met in the order of the paths. -/
theorem ascending_findings {path : String} {tree : FileTree α} (htree : tree.WellNamed) :
    Finding.Ascending (findings blocked refusal path tree) := by
  induction tree using induction generalizing path with
  | file content =>
    rw [findings]
    split
    · exact List.pairwise_singleton _ _
    · exact .nil
  | directory entries ih =>
    rw [findings]
    cases refusal path with
    | some reason => exact List.pairwise_singleton _ _
    | none =>
      have hbelow : ∀ found ∈ entryFindings blocked refusal path entries, ∃ entry : FileTree α,
          found.2 = findingsBelow blocked refusal path found.1 entry ∧
            (found.1, entry) ∈ entries := by
        intro found hfound
        rw [entryFindings_eq_map] at hfound
        obtain ⟨⟨name, entry⟩, hmem, rfl⟩ := List.mem_map.mp hfound
        exact ⟨entry, rfl, hmem⟩
      have hnames : ((entryFindings blocked refusal path entries).map Prod.fst).Nodup := by
        rw [entryFindings_eq_map, List.map_map]
        exact htree.1
      rw [Finding.Ascending, inOrder, List.pairwise_flatMap]
      constructor
      · intro found hfound
        obtain ⟨entry, hfindings, hmem⟩ := hbelow found (List.mem_mergeSort.mp hfound)
        rw [hfindings, findingsBelow]
        split
        · exact ascending_unreached _
        · exact ih found.1 entry hmem (htree.2.of_mem hmem).2
      · refine (pairwise_lt_mergeSort hnames).imp_of_mem ?_
        intro first second hfirst hsecond hlt finding hfinding finding' hfinding'
        obtain ⟨entry, hfindings, hmem⟩ := hbelow first (List.mem_mergeSort.mp hfirst)
        obtain ⟨entry', hfindings', hmem'⟩ := hbelow second (List.mem_mergeSort.mp hsecond)
        obtain ⟨hname, hentry⟩ := htree.2.of_mem hmem
        obtain ⟨hname', hentry'⟩ := htree.2.of_mem hmem'
        rw [hfindings] at hfinding
        rw [hfindings'] at hfinding'
        exact Path.components_lt hlt (components_prefix_of_mem_findingsBelow hname hentry hfinding)
          (components_prefix_of_mem_findingsBelow hname' hentry' hfinding')

end FileTree

/-- Everything that a walk meets is met in the order of the paths. -/
theorem FileSystem.ascending_walk {α : Type} {system : FileSystem α}
    (hroot : system.root.WellNamed) {refusal : String → Option String} {path : String} :
    Finding.Ascending (system.walk refusal path) := by
  rw [walk]
  cases hpath : system.at? path with
  | ok node => exact FileTree.ascending_findings (wellNamed_of_at? hroot hpath)
  | error e => exact FileTree.ascending_unreached path

end ClassOutline
