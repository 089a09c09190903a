/-
  Proofs/FileTree/Lookup.lean --- following the path of an entry.

  The names of a tree are those that a directory can have: each one is a single
  segment that leads to an entry and nowhere else, and no directory has two entries of
  one name.  In such a tree the path of an entry, as a walk joins it, leads to that
  entry, unless it cannot be followed.
-/
import ClassOutline.FileSystem

set_option autoImplicit false

namespace ClassOutline

/-! ## Segments -/

namespace Path

theorem split_append_slash (cs ds : List Char) :
    split (cs ++ '/' :: ds) = split cs ++ split ds := by
  induction cs with
  | nil => exact split_cons_slash ds
  | cons c cs ih =>
    by_cases hc : c = '/'
    · subst hc
      rw [List.cons_append, split_cons_slash, split_cons_slash, ih, List.cons_append]
    · obtain ⟨part, rest, hsplit, hcons⟩ := split_cons hc cs
      obtain ⟨part', rest', hsplit', hcons'⟩ := split_cons hc (cs ++ '/' :: ds)
      rw [ih, hsplit, List.cons_append, List.cons.injEq] at hsplit'
      obtain ⟨rfl, rfl⟩ := hsplit'
      rw [List.cons_append, hcons', hcons, List.cons_append]

theorem split_of_slash_not_mem {cs : List Char} (h : '/' ∉ cs) : split cs = [cs] := by
  induction cs with
  | nil => rfl
  | cons c cs ih =>
    rw [List.mem_cons, not_or] at h
    obtain ⟨part, rest, hsplit, hcons⟩ := split_cons (Ne.symm h.1) cs
    rw [ih h.2, List.cons.injEq] at hsplit
    obtain ⟨rfl, rfl⟩ := hsplit
    exact hcons

/-- Whether an entry of a directory can have a name: it is one segment, and not one
that is passed over or leads upwards. -/
structure IsName (name : String) : Prop where
  ne_empty : name ≠ ""
  ne_dot : name ≠ "."
  ne_dots : name ≠ ".."
  slash_not_mem : '/' ∉ name.toList
  length_le : name.utf8ByteSize ≤ maxNameLength

instance (name : String) : Decidable (IsName name) :=
  decidable_of_iff (name ≠ "" ∧ name ≠ "." ∧ name ≠ ".." ∧ '/' ∉ name.toList ∧
      name.utf8ByteSize ≤ maxNameLength)
    ⟨fun ⟨h, h', h'', h''', h''''⟩ => ⟨h, h', h'', h''', h''''⟩,
      fun ⟨h, h', h'', h''', h''''⟩ => ⟨h, h', h'', h''', h''''⟩⟩

/-- A name that is joined to a path becomes its last segment.  It takes the place of the
empty one behind a slash. -/
theorem segments_join {path name : String} (hpath : path ≠ "") (hname : IsName name) :
    segments (join path name) = segments path ++ [name] ∨
      ∃ front, segments path = front ++ [""] ∧ segments (join path name) = front ++ [name] := by
  have hsingle : split name.toList = [name.toList] := split_of_slash_not_mem hname.slash_not_mem
  have hempty : path.isEmpty = false := by
    simpa using hpath
  rw [join, hempty, Bool.false_or]
  by_cases hlast : path.toList.getLast? = some '/'
  · right
    obtain ⟨front, hfront⟩ := List.getLast?_eq_some_iff.mp hlast
    refine ⟨(split front).map String.ofList, ?_, ?_⟩
    · rw [segments, hfront, split_append_slash, List.map_append]
      rfl
    · rw [if_pos (decide_eq_true hlast), segments, String.toList_append, hfront, List.append_assoc,
        List.singleton_append, split_append_slash, hsingle, List.map_append, List.map_singleton,
        String.ofList_toList]
  · left
    rw [if_neg (by simpa using hlast), segments, String.toList_append, String.toList_append,
      List.append_assoc]
    have hslash : "/".toList ++ name.toList = '/' :: name.toList := rfl
    rw [hslash, split_append_slash, hsingle, List.map_append, List.map_singleton,
      String.ofList_toList, segments]

theorem isAbsolute_join {path : String} (hpath : path ≠ "") (name : String) :
    isAbsolute (join path name) = isAbsolute path := by
  have hchars : path.toList ≠ [] := by
    simpa using hpath
  obtain ⟨c, cs, hcs⟩ := List.exists_cons_of_ne_nil hchars
  rw [join]
  split <;> simp [isAbsolute, hcs]

theorem join_ne_empty {path : String} (hpath : path ≠ "") (name : String) :
    join path name ≠ "" := by
  rw [join]
  split <;> simp [hpath]

end Path

/-! ## Trees with proper names -/

namespace FileTree

variable {α : Type}

mutual

/-- Whether the names in a tree are proper, and those in a directory distinct. -/
def WellNamed : FileTree α → Prop
  | .file _ => True
  | .directory entries => (entries.map Prod.fst).Nodup ∧ EachWellNamed entries

/-- Whether the names of some entries and those below them are proper. -/
def EachWellNamed : List (String × FileTree α) → Prop
  | [] => True
  | (name, entry) :: rest => Path.IsName name ∧ entry.WellNamed ∧ EachWellNamed rest

end

theorem EachWellNamed.of_mem {entries : List (String × FileTree α)} (h : EachWellNamed entries)
    {name : String} {entry : FileTree α} (hmem : (name, entry) ∈ entries) :
    Path.IsName name ∧ entry.WellNamed := by
  induction entries with
  | nil => cases hmem
  | cons first rest ih =>
    obtain ⟨hname, hentry, hrest⟩ := h
    rcases List.mem_cons.mp hmem with rfl | hmem
    · exact ⟨hname, hentry⟩
    · exact ih hrest hmem

/-- The entry of a name, where there is no other of that name. -/
theorem lookup_of_mem {entries : List (String × FileTree α)}
    (hdistinct : (entries.map Prod.fst).Nodup) {name : String} {entry : FileTree α}
    (hmem : (name, entry) ∈ entries) : entries.lookup name = some entry := by
  induction entries with
  | nil => cases hmem
  | cons first rest ih =>
    obtain ⟨other, old⟩ := first
    rw [List.map_cons, List.nodup_cons] at hdistinct
    rcases List.mem_cons.mp hmem with heq | hmem
    · cases heq
      exact List.lookup_cons_self
    · have hother : name ≠ other := by
        intro heq
        rw [← heq] at hdistinct
        exact hdistinct.1 (List.mem_map.mpr ⟨_, hmem, rfl⟩)
      rw [List.lookup_cons, beq_eq_false_iff_ne.mpr hother]
      exact ih hdistinct.2 hmem

/-! ## Following -/

/-- What one segment leads to from a tree, below the directories `above` it, and the
directories above that. -/
def enter (above : List (FileTree α)) (here : FileTree α) (segment : String) :
    Except LookupError (List (FileTree α) × FileTree α) :=
  match here with
  | .file _ => .error .notADirectory
  | .directory entries =>
    if segment = "" || segment = "." then .ok (above, here)
    else if segment = ".." then
      match above with
      | [] => .ok ([], here)
      | parent :: above => .ok (above, parent)
    else if Path.maxNameLength < segment.utf8ByteSize then .error .nameTooLong
    else
      match entries.lookup segment with
      | none => .error .noEntry
      | some entry => .ok (here :: above, entry)

/-- Segments are followed one after the other. -/
theorem follow_cons (above : List (FileTree α)) (here : FileTree α) (segment : String)
    (rest : List String) :
    follow above here (segment :: rest) =
      (enter above here segment).bind fun (above, here) => follow above here rest := by
  cases here with
  | file content => rfl
  | directory entries =>
    rw [follow.eq_def, enter.eq_def]
    simp only
    split
    · rfl
    · split
      · cases above <;> rfl
      · split
        · rfl
        · cases entries.lookup segment <;> rfl

/-- Segments behind others are followed from where these lead to, if they lead
anywhere. -/
theorem follow_append (segments : List String) (above : List (FileTree α)) (here : FileTree α) :
    (∃ e, ∀ rest, follow above here (segments ++ rest) = .error e) ∨
      ∃ above' node, ∀ rest, follow above here (segments ++ rest) = follow above' node rest := by
  induction segments generalizing above here with
  | nil => exact .inr ⟨above, here, fun _ => rfl⟩
  | cons segment segments ih =>
    simp only [List.cons_append, follow_cons]
    cases enter above here segment with
    | error e => exact .inl ⟨e, fun _ => rfl⟩
    | ok next => exact ih next.1 next.2

theorem mem_of_lookup {entries : List (String × FileTree α)} {name : String} {entry : FileTree α}
    (h : entries.lookup name = some entry) : (name, entry) ∈ entries := by
  obtain ⟨front, back, rfl, -⟩ := List.lookup_eq_some_iff.mp h
  exact List.mem_append_right front List.mem_cons_self

/-- What is entered from trees with proper names has proper names. -/
theorem WellNamed.enter {above : List (FileTree α)} {here : FileTree α} {segment : String}
    {next : List (FileTree α) × FileTree α} (habove : ∀ tree ∈ above, tree.WellNamed)
    (hhere : here.WellNamed) (h : FileTree.enter above here segment = .ok next) :
    (∀ tree ∈ next.1, tree.WellNamed) ∧ next.2.WellNamed := by
  cases here with
  | file content => cases h
  | directory entries =>
    rw [FileTree.enter.eq_def] at h
    simp only at h
    split at h
    · cases h
      exact ⟨habove, hhere⟩
    · split at h
      · cases above with
        | nil =>
          cases h
          exact ⟨habove, hhere⟩
        | cons parent above =>
          cases h
          exact (List.forall_mem_cons.mp habove).symm
      · split at h
        · cases h
        · cases hlookup : entries.lookup segment with
          | none => rw [hlookup] at h; cases h
          | some entry =>
            rw [hlookup] at h
            cases h
            exact ⟨List.forall_mem_cons.mpr ⟨hhere, habove⟩,
              (hhere.2.of_mem (mem_of_lookup hlookup)).2⟩

theorem WellNamed.follow {above : List (FileTree α)} {here node : FileTree α}
    {segments : List String} (habove : ∀ tree ∈ above, tree.WellNamed) (hhere : here.WellNamed)
    (h : FileTree.follow above here segments = .ok node) : node.WellNamed := by
  induction segments generalizing above here with
  | nil =>
    cases h
    exact hhere
  | cons segment rest ih =>
    rw [follow_cons] at h
    cases henter : FileTree.enter above here segment with
    | error e => rw [henter] at h; cases h
    | ok next =>
      rw [henter] at h
      obtain ⟨habove', hnext⟩ := hhere.enter habove henter
      exact ih habove' hnext h

section Entries

variable {above : List (FileTree α)} {here : FileTree α} {front : List String}
  {entries : List (String × FileTree α)} {name : String} {entry : FileTree α}

/-- A name leads to its entry from wherever its directory is. -/
theorem follow_name (hdistinct : (entries.map Prod.fst).Nodup) (hname : Path.IsName name)
    (hmem : (name, entry) ∈ entries) : follow above (.directory entries) [name] = .ok entry := by
  have hlength : ¬ Path.maxNameLength < name.utf8ByteSize := Nat.not_lt.mpr hname.length_le
  simp [follow, hname.ne_empty, hname.ne_dot, hname.ne_dots, hlength, lookup_of_mem hdistinct hmem]

theorem follow_append_name (h : follow above here front = .ok (.directory entries))
    (hdistinct : (entries.map Prod.fst).Nodup) (hname : Path.IsName name)
    (hmem : (name, entry) ∈ entries) : follow above here (front ++ [name]) = .ok entry := by
  rcases follow_append front above here with ⟨e, hfollow⟩ | ⟨above', node, hfollow⟩
  · have hempty := hfollow []
    rw [List.append_nil, h] at hempty
    cases hempty
  · have hempty := hfollow []
    rw [List.append_nil, h] at hempty
    cases hempty
    rw [hfollow, follow_name hdistinct hname hmem]

/-- An empty segment at the end demands that a directory is there. -/
theorem follow_of_append_empty (h : follow above here (front ++ [""]) = .ok (.directory entries)) :
    follow above here front = .ok (.directory entries) := by
  rcases follow_append front above here with ⟨e, hfollow⟩ | ⟨above', node, hfollow⟩
  · rw [hfollow] at h
    cases h
  · have hempty := hfollow []
    rw [List.append_nil] at hempty
    rw [hempty]
    rw [hfollow] at h
    cases node with
    | file content => cases h
    | directory entries' => exact h

end Entries

end FileTree

/-! ## Paths -/

namespace FileSystem

variable {α : Type} {system : FileSystem α} {path : String} {node : FileTree α}

/-- A path leads somewhere if it can be followed and its segments lead there. -/
theorem at?_eq_ok_iff :
    system.at? path = .ok node ↔
      path ≠ "" ∧ system.isBlocked path = false ∧
        system.root.follow [] (system.segments path) = .ok node := by
  rw [at?, isBlocked]
  split
  · next hempty => simp [hempty]
  · next hempty =>
    split
    · next hlong => simp [hlong]
    · next hlong =>
      cases hbarred : system.barred path with
      | none => simp [hempty, hlong]
      | some reason => simp

theorem at?_eq_error_of_isBlocked (h : system.isBlocked path) :
    ∃ e, system.at? path = .error e := by
  cases hpath : system.at? path with
  | error e => exact ⟨e, rfl⟩
  | ok node =>
    obtain ⟨-, hfree, -⟩ := at?_eq_ok_iff.mp hpath
    rw [h] at hfree
    cases hfree

theorem wellNamed_of_at? (hroot : system.root.WellNamed) (h : system.at? path = .ok node) :
    node.WellNamed :=
  FileTree.WellNamed.follow (by simp) hroot (at?_eq_ok_iff.mp h).2.2

theorem wellNamed_ofEntries {entries : List (String × FileTree α)}
    (h : (FileTree.directory entries).WellNamed) (barred : String → Option String) :
    (ofEntries entries barred).root.WellNamed :=
  ⟨by simp, by decide, h, trivial⟩

/-- A name that is joined to a path becomes the last of the segments that are followed, and
takes the place of the empty one behind a slash. -/
theorem segments_join {name : String} (hpath : path ≠ "") (hname : Path.IsName name) :
    system.segments (Path.join path name) = system.segments path ++ [name] ∨
      ∃ front, system.segments path = front ++ [""] ∧
        system.segments (Path.join path name) = front ++ [name] := by
  rw [segments, segments, Path.isAbsolute_join hpath]
  split
  · exact Path.segments_join hpath hname
  · rcases Path.segments_join hpath hname with hsegments | ⟨front, hfront, hsegments⟩
    · left
      rw [hsegments, List.append_assoc]
    · right
      refine ⟨system.workingDirectory ++ front, ?_, ?_⟩
      · rw [hfront, List.append_assoc]
      · rw [hsegments, List.append_assoc]

/-- The path of an entry leads to it from wherever the path of its directory leads, if it
can be followed. -/
theorem at?_join {entries : List (String × FileTree α)}
    (h : system.at? path = .ok (.directory entries)) (hdistinct : (entries.map Prod.fst).Nodup)
    {name : String} (hname : Path.IsName name) {entry : FileTree α} (hmem : (name, entry) ∈ entries)
    (hfree : system.isBlocked (Path.join path name) = false) :
    system.at? (Path.join path name) = .ok entry := by
  obtain ⟨hpath, -, hfollow⟩ := at?_eq_ok_iff.mp h
  refine at?_eq_ok_iff.mpr ⟨Path.join_ne_empty hpath name, hfree, ?_⟩
  rcases system.segments_join hpath hname with hsegments | ⟨front, hfront, hsegments⟩
  · rw [hsegments]
    exact FileTree.follow_append_name hfollow hdistinct hname hmem
  · rw [hfront] at hfollow
    rw [hsegments]
    exact FileTree.follow_append_name (FileTree.follow_of_append_empty hfollow) hdistinct hname hmem

end FileSystem

end ClassOutline
