/-
  Proofs/FileTree/Completion.lean --- trees that differ in some files.

  A tree in which some files are open says what all the trees have in common that have
  anything in the place of these files, or nothing.  A path leads to the same in all of
  them, unless it leads to an open file; and a walk meets the same known files in all of
  them, in the same order.
-/
import Mathlib.Data.List.Nodup
import ClassOutline.Proofs.FileTree.Reached

set_option autoImplicit false

namespace ClassOutline

namespace FileTree

variable {α : Type}

/-! ## Completions -/

/-- Whether entries complete entries with open files, given when a tree does: they are
the same by name, but open files may have been left out. -/
inductive EachCompletes (completes : FileTree (Option α) → FileTree α → Prop) :
    List (String × FileTree (Option α)) → List (String × FileTree α) → Prop where
  | nil : EachCompletes completes [] []
  | cons {name : String} {first : FileTree (Option α)} {entry : FileTree α}
      {pattern : List (String × FileTree (Option α))} {entries : List (String × FileTree α)}
      (h : completes first entry) (hrest : EachCompletes completes pattern entries) :
    EachCompletes completes ((name, first) :: pattern) ((name, entry) :: entries)
  | leftOut {name : String} {pattern : List (String × FileTree (Option α))}
      {entries : List (String × FileTree α)} (hrest : EachCompletes completes pattern entries) :
    EachCompletes completes ((name, .file none) :: pattern) entries

/-- Whether a tree has the known files of a tree with open ones, and anything or nothing
in the place of each of these. -/
inductive Completes : FileTree (Option α) → FileTree α → Prop where
  | known (content : α) : Completes (.file (some content)) (.file content)
  | filled (content : α) : Completes (.file none) (.file content)
  | directory {pattern : List (String × FileTree (Option α))} {entries : List (String × FileTree α)}
      (h : EachCompletes Completes pattern entries) :
    Completes (.directory pattern) (.directory entries)

/-! ## Following -/

/-- How looking something up in a tree compares with looking it up in a tree with open
files: what was found is related, or it is one of the open files and not there, or there
is nothing in either. -/
inductive Agrees {σ τ : Type} (related : σ → τ → Prop) (isOpen : σ → Prop) :
    Except LookupError σ → Except LookupError τ → Prop where
  | found {s : σ} {t : τ} (h : related s t) : Agrees related isOpen (.ok s) (.ok t)
  | leftOut {s : σ} {e : LookupError} (h : isOpen s) : Agrees related isOpen (.ok s) (.error e)
  | nowhere (e e' : LookupError) : Agrees related isOpen (.error e) (.error e')

section Lookup

variable {pattern : List (String × FileTree (Option α))} {entries : List (String × FileTree α)}

theorem EachCompletes.lookup_eq_none {completes : FileTree (Option α) → FileTree α → Prop}
    (h : EachCompletes completes pattern entries) {name : String}
    (hnone : pattern.lookup name = none) : entries.lookup name = none := by
  induction h with
  | nil => rfl
  | @cons other _ _ _ _ _ _ ih =>
    rw [List.lookup_cons] at hnone ⊢
    cases hname : name == other with
    | true => rw [hname] at hnone; cases hnone
    | false => rw [hname] at hnone; exact ih hnone
  | @leftOut other _ _ _ ih =>
    rw [List.lookup_cons] at hnone
    cases hname : name == other with
    | true => rw [hname] at hnone; cases hnone
    | false => rw [hname] at hnone; exact ih hnone

/-- An entry is found again, unless it is an open file that was left out. -/
theorem EachCompletes.lookup_eq_some {completes : FileTree (Option α) → FileTree α → Prop}
    (h : EachCompletes completes pattern entries) (hdistinct : (pattern.map Prod.fst).Nodup)
    {name : String} {first : FileTree (Option α)} (hsome : pattern.lookup name = some first) :
    (∃ entry, entries.lookup name = some entry ∧ completes first entry) ∨
      (first = .file none ∧ entries.lookup name = none) := by
  induction h with
  | nil => cases hsome
  | @cons other _ entry _ _ h _ ih =>
    rw [List.lookup_cons] at hsome ⊢
    cases hname : name == other with
    | true =>
      rw [hname] at hsome
      cases hsome
      exact .inl ⟨entry, rfl, h⟩
    | false =>
      rw [hname] at hsome
      exact ih (List.nodup_cons.mp hdistinct).2 hsome
  | @leftOut other pattern _ hrest ih =>
    rw [List.map_cons, List.nodup_cons] at hdistinct
    rw [List.lookup_cons] at hsome
    cases hname : name == other with
    | true =>
      rw [hname] at hsome
      cases hsome
      -- There is no other entry of that name.
      have hnone : pattern.lookup name = none := by
        rw [List.lookup_eq_none_iff]
        intro found hmem
        rw [eq_of_beq hname, bne_iff_ne]
        rintro rfl
        exact hdistinct.1 (List.mem_map.mpr ⟨found, hmem, rfl⟩)
      exact .inr ⟨rfl, hrest.lookup_eq_none hnone⟩
    | false =>
      rw [hname] at hsome
      exact ih hdistinct.2 hsome

end Lookup

/-- Whether directories complete directories with open files, one by one. -/
abbrev AboveCompletes : List (FileTree (Option α)) → List (FileTree α) → Prop :=
  List.Forall₂ Completes

theorem Completes.enter {above : List (FileTree (Option α))} {above' : List (FileTree α)}
    {pattern : FileTree (Option α)} {tree : FileTree α} (habove : AboveCompletes above above')
    (h : Completes pattern tree) (hpattern : pattern.WellNamed) (segment : String) :
    Agrees (fun s t => AboveCompletes s.1 t.1 ∧ Completes s.2 t.2) (fun s => s.2 = .file none)
      (FileTree.enter above pattern segment) (FileTree.enter above' tree segment) := by
  cases h with
  | known content => exact .nowhere _ _
  | filled content => exact .nowhere _ _
  | directory h =>
    rw [enter.eq_def, enter.eq_def]
    simp only
    split
    · exact .found ⟨habove, .directory h⟩
    · split
      · cases habove with
        | nil => exact .found ⟨.nil, .directory h⟩
        | cons hparent habove => exact .found ⟨habove, hparent⟩
      · split
        · exact .nowhere _ _
        · cases hlookup : List.lookup segment _ with
          | none =>
            rw [h.lookup_eq_none hlookup]
            exact .nowhere _ _
          | some first =>
            rcases h.lookup_eq_some hpattern.1 hlookup with
              ⟨entry, hentry, hcompletes⟩ | ⟨rfl, hnone⟩
            · rw [hentry]
              exact .found ⟨.cons (.directory h) habove, hcompletes⟩
            · rw [hnone]
              exact .leftOut rfl

theorem Completes.follow {above : List (FileTree (Option α))} {above' : List (FileTree α)}
    {pattern : FileTree (Option α)} {tree : FileTree α} (habove : AboveCompletes above above')
    (haboveNames : ∀ tree ∈ above, tree.WellNamed) (h : Completes pattern tree)
    (hpattern : pattern.WellNamed) (segments : List String) :
    Agrees Completes (· = .file none) (FileTree.follow above pattern segments)
      (FileTree.follow above' tree segments) := by
  induction segments generalizing above above' pattern tree with
  | nil => exact .found h
  | cons segment rest ih =>
    rw [follow_cons, follow_cons]
    have hagrees := h.enter habove hpattern segment
    generalize hnext : FileTree.enter above pattern segment = next at hagrees
    generalize FileTree.enter above' tree segment = next' at hagrees
    cases hagrees with
    | @found s t hcompletes =>
      obtain ⟨habove', hpattern'⟩ := hpattern.enter haboveNames hnext
      exact ih hcompletes.1 habove' hcompletes.2 hpattern'
    | @leftOut s e hopen =>
      obtain ⟨sAbove, sHere⟩ := s
      obtain rfl : sHere = .file none := hopen
      -- An open file ends the path, or is not passed through either.
      cases rest with
      | nil => exact .leftOut rfl
      | cons segment rest => exact .nowhere _ _
    | nowhere e e' => exact .nowhere e e'

/-! ## Walking -/

section Order

variable {found : List (String × List (Finding Unit))}

/-- What is kept of findings in order is what is kept of those in each entry. -/
theorem filter_inOrder (keep : Finding Unit → Bool) :
    (inOrder found).filter keep =
      inOrder (found.map fun (name, findings) => (name, findings.filter keep)) := by
  rw [inOrder, inOrder, List.filter_flatMap, ← List.map_mergeSort, List.flatMap_map]
  intro a _ b _
  rfl

/-- Entries without findings have no place in the order of the others. -/
theorem inOrder_filter_nonempty (hdistinct : (found.map Prod.fst).Nodup) :
    inOrder (found.filter fun entry => !entry.2.isEmpty) = inOrder found := by
  -- The names decide the order, so there is only one.
  have hfilter : (found.filter fun entry => !entry.2.isEmpty).mergeSort
        (fun a b => decide (a.1 ≤ b.1)) =
      (found.mergeSort fun a b => decide (a.1 ≤ b.1)).filter fun entry => !entry.2.isEmpty := by
    refine List.Perm.eq_of_pairwise ?_ (pairwise_mergeSort_names _)
      ((pairwise_mergeSort_names found).filter _) ?_
    · intro a b ha hb hab hba
      have hname := String.le_antisymm (of_decide_eq_true hab) (of_decide_eq_true hba)
      rw [List.mem_mergeSort, List.mem_filter] at ha
      rw [List.mem_filter, List.mem_mergeSort] at hb
      exact List.inj_on_of_nodup_map hdistinct ha.1 hb.1 hname
    · exact (List.mergeSort_perm _ _).trans ((List.mergeSort_perm found _).symm.filter _)
  rw [inOrder, hfilter, inOrder]
  generalize found.mergeSort (fun a b => decide (a.1 ≤ b.1)) = sorted
  induction sorted with
  | nil => rfl
  | cons first rest ih =>
    obtain ⟨name, findings⟩ := first
    cases findings with
    | nil => simpa using ih
    | cons finding findings => simpa using ih

end Order

section Entries

variable {blocked : String → Bool} {refusal : String → Option String} {path : String}
  {keep : Finding Unit → Bool} {completes : FileTree (Option α) → FileTree α → Prop}
  {pattern : List (String × FileTree (Option α))} {entries : List (String × FileTree α)}

theorem EachCompletes.names_sublist (h : EachCompletes completes pattern entries) :
    (entries.map Prod.fst).Sublist (pattern.map Prod.fst) := by
  induction h with
  | nil => exact .slnil
  | cons h hrest ih => exact ih.cons_cons _
  | leftOut hrest ih => exact ih.cons _

/-- What is kept of the findings in an entry, with its name. -/
def keptBelow {β : Type} (blocked : String → Bool) (refusal : String → Option String)
    (path : String) (keep : Finding Unit → Bool) (entry : String × FileTree β) :
    String × List (Finding Unit) :=
  (entry.1, (findingsBelow blocked refusal path entry.1 entry.2).filter keep)

theorem filter_inOrder_entryFindings {β : Type} {entries : List (String × FileTree β)}
    (hdistinct : (entries.map Prod.fst).Nodup) :
    (inOrder (entryFindings blocked refusal path entries)).filter keep =
      inOrder ((entries.map (keptBelow blocked refusal path keep)).filter
        fun entry => !entry.2.isEmpty) := by
  have hnames : ((entries.map (keptBelow blocked refusal path keep)).map Prod.fst).Nodup := by
    rwa [List.map_map]
  rw [inOrder_filter_nonempty hnames, filter_inOrder, entryFindings_eq_map, List.map_map]
  rfl

/-- Entries keep what each of them keeps; those that are left out have nothing to keep. -/
theorem EachCompletes.filter_inOrder_entryFindings (h : EachCompletes completes pattern entries)
    (hdistinct : (pattern.map Prod.fst).Nodup)
    (hentry : ∀ name first entry, (name, first) ∈ pattern → completes first entry →
      (findingsBelow blocked refusal path name entry).filter keep =
        (findingsBelow blocked refusal path name first).filter keep)
    (hopen : ∀ name, (name, .file none) ∈ pattern →
      (findingsBelow blocked refusal path name (.file (none : Option α))).filter keep = []) :
    (inOrder (entryFindings blocked refusal path entries)).filter keep =
      (inOrder (entryFindings blocked refusal path pattern)).filter keep := by
  rw [FileTree.filter_inOrder_entryFindings (h.names_sublist.nodup hdistinct),
    FileTree.filter_inOrder_entryFindings hdistinct]
  congr 1
  clear hdistinct
  induction h with
  | nil => rfl
  | @cons name first entry pattern entries h hrest ih =>
    have hfirst : keptBelow blocked refusal path keep (name, entry) =
        keptBelow blocked refusal path keep (name, first) :=
      congrArg (Prod.mk name) (hentry name first entry List.mem_cons_self h)
    have hothers := ih (fun name first entry hmem => hentry name first entry (.tail _ hmem))
      fun name hmem => hopen name (.tail _ hmem)
    rw [List.map_cons, List.map_cons, hfirst, List.filter_cons, List.filter_cons, hothers]
  | @leftOut name pattern entries hrest ih =>
    have hfirst : (keptBelow blocked refusal path keep
        (name, (.file none : FileTree (Option α)))).2 = [] :=
      hopen name List.mem_cons_self
    have hothers := ih (fun name first entry hmem => hentry name first entry (.tail _ hmem))
      fun name hmem => hopen name (.tail _ hmem)
    rw [List.map_cons, List.filter_cons_of_neg (by simp [hfirst]), hothers]

end Entries

end FileTree

/-! ## File systems -/

namespace FileSystem

open FileTree (Agrees findingsBelow unreached)

variable {α : Type}

/-- Whether a file system completes one with open files.  What a path starts from and
whether it can be followed is the same in both. -/
structure Completes (pattern : FileSystem (Option α)) (system : FileSystem α) : Prop where
  root : pattern.root.Completes system.root
  workingDirectory : system.workingDirectory = pattern.workingDirectory
  barred : system.barred = pattern.barred

/-- Whether a path leads to an open file. -/
def isOpen (pattern : FileSystem (Option α)) (path : String) : Bool :=
  match pattern.at? path with
  | .ok (.file none) => true
  | _ => false

/-- Whether a path leads to a known file. -/
def isKnown (pattern : FileSystem (Option α)) (path : String) : Bool :=
  match pattern.at? path with
  | .ok (.file (some _)) => true
  | _ => false

/-- Whether a finding is a class file that is known. -/
def keeps (pattern : FileSystem (Option α)) : Finding Unit → Bool
  | .classFile path _ => pattern.isKnown path
  | _ => false

section Keeps

variable {pattern : FileSystem (Option α)} {path : String}

/-- What is met at a path that leads nowhere is not known, if the path leads to no known
file. -/
theorem filter_keeps_unreached (h : pattern.isKnown path = false) :
    (unreached path).filter pattern.keeps = [] := by
  rw [unreached]
  split <;> simp [keeps, h]

/-- Nor is an open file. -/
theorem filter_keeps_findings_file (h : pattern.isKnown path = false) (blocked : String → Bool)
    (refusal : String → Option String) (content : Option α) :
    ((FileTree.file content).findings blocked refusal path).filter pattern.keeps = [] := by
  rw [FileTree.findings]
  split <;> simp [keeps, h]

theorem isKnown_of_error {e : LookupError} (h : pattern.at? path = .error e) :
    pattern.isKnown path = false := by
  rw [isKnown, h]

theorem isKnown_of_open (h : pattern.at? path = .ok (.file none)) :
    pattern.isKnown path = false := by
  rw [isKnown, h]

end Keeps

namespace Completes

variable {pattern : FileSystem (Option α)} {system : FileSystem α}
  {refusal : String → Option String} {path : String}

theorem isBlocked_eq (h : pattern.Completes system) : system.isBlocked = pattern.isBlocked := by
  funext path
  rw [FileSystem.isBlocked, FileSystem.isBlocked, h.barred]

theorem segments_eq (h : pattern.Completes system) (path : String) :
    system.segments path = pattern.segments path := by
  rw [FileSystem.segments, FileSystem.segments, h.workingDirectory]

/-- A path leads to the same in each completion, unless it leads to an open file. -/
theorem at? (h : pattern.Completes system) (hpattern : pattern.root.WellNamed) (path : String) :
    Agrees FileTree.Completes (· = .file none) (pattern.at? path) (system.at? path) := by
  rw [FileSystem.at?, FileSystem.at?, h.barred, h.segments_eq]
  split
  · exact .nowhere _ _
  · split
    · exact .nowhere _ _
    · cases pattern.barred path with
      | some reason => exact .nowhere _ _
      | none => exact h.root.follow .nil (by simp) hpattern _

/-- A walk meets the same known files below a path in each completion.  The path has to
lead to the tree with open files, since that tells which files are known. -/
theorem filter_findings {node : FileTree (Option α)} {node' : FileTree α}
    (h : node.Completes node') (hnode : node.WellNamed) (hpath : pattern.at? path = .ok node) :
    (node'.findings pattern.isBlocked refusal path).filter pattern.keeps =
      (node.findings pattern.isBlocked refusal path).filter pattern.keeps := by
  induction node using FileTree.induction generalizing node' path with
  | file content =>
    cases h with
    | known content => rfl
    | filled content => rfl
  | directory entries ih =>
    cases h with
    | @directory _ entries' h =>
      rw [FileTree.findings, FileTree.findings]
      split
      · rfl
      · refine h.filter_inOrder_entryFindings hnode.1 ?_ ?_
        · intro name first entry hmem hcompletes
          obtain ⟨hname, hfirst⟩ := hnode.2.of_mem hmem
          rw [findingsBelow, findingsBelow]
          split
          · rfl
          · next hfree =>
            exact ih name first hmem hcompletes hfirst
              (at?_join hpath hnode.1 hname hmem (eq_false_of_ne_true hfree))
        · intro name hmem
          obtain ⟨hname, -⟩ := hnode.2.of_mem hmem
          rw [findingsBelow]
          split
          · next hblocked =>
            obtain ⟨e, he⟩ := at?_eq_error_of_isBlocked hblocked
            exact filter_keeps_unreached (isKnown_of_error he)
          · next hfree =>
            have hopen := at?_join hpath hnode.1 hname hmem (eq_false_of_ne_true hfree)
            exact filter_keeps_findings_file (isKnown_of_open hopen) _ refusal none

/-- A walk meets the same known files in each completion. -/
theorem filter_walk (h : pattern.Completes system) (hpattern : pattern.root.WellNamed) :
    (system.walk refusal path).filter pattern.keeps =
      (pattern.walk refusal path).filter pattern.keeps := by
  have hagrees := h.at? hpattern path
  rw [walk, walk, h.isBlocked_eq]
  generalize hfound : pattern.at? path = found, system.at? path = found' at hagrees
  cases hagrees with
  | found h => exact filter_findings h (wellNamed_of_at? hpattern hfound) hfound
  | leftOut hopen =>
    subst hopen
    have hunknown := isKnown_of_open hfound
    exact (filter_keeps_unreached hunknown).trans
      (filter_keeps_findings_file hunknown _ refusal none).symm
  | nowhere e e' => rfl

/-- A known file is in each completion. -/
theorem exists_at?_of_isKnown (h : pattern.Completes system) (hpattern : pattern.root.WellNamed)
    (hknown : pattern.isKnown path) :
    ∃ content, pattern.at? path = .ok (.file (some content)) ∧
      system.at? path = .ok (.file content) := by
  have hagrees := h.at? hpattern path
  unfold FileSystem.isKnown at hknown
  split at hknown
  · next content heq =>
    rw [heq] at hagrees ⊢
    generalize system.at? path = found at hagrees
    cases hagrees with
    | found h =>
      cases h
      exact ⟨content, rfl, rfl⟩
    | leftOut hopen => cases hopen
  · cases hknown

/-- A file in a completion is a known one, or in the place of an open one. -/
theorem isOpen_eq_not_isKnown (h : pattern.Completes system) (hpattern : pattern.root.WellNamed)
    {content : α} (hfile : system.at? path = .ok (.file content)) :
    pattern.isOpen path = !pattern.isKnown path := by
  have hagrees := h.at? hpattern path
  rw [hfile] at hagrees
  rw [FileSystem.isOpen, FileSystem.isKnown]
  generalize pattern.at? path = found at hagrees
  cases hagrees with
  | found h => cases h <;> rfl

end Completes

end FileSystem

end ClassOutline
