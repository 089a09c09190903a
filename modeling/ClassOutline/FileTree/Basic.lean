/-
  FileTree/Basic.lean --- directories, files and the paths between them.

  A tree is a file with its content or a directory with its named entries.
  Segments are followed one by one from a directory; only a directory can be
  passed through, also by a dot or an empty segment.  The outermost directory is
  above itself.
-/
import ClassOutline.Path

set_option autoImplicit false

namespace ClassOutline

/-- A file with content of type `α`, or a directory. -/
inductive FileTree (α : Type) where
  | file (content : α)
  | directory (entries : List (String × FileTree α))

/-- Why a path leads nowhere. -/
inductive LookupError where
  /-- A directory has no entry of that name. -/
  | noEntry
  /-- A file was to be passed through. -/
  | notADirectory
  /-- The path, or the name of an entry on its way, has too many bytes. -/
  | nameTooLong
  /-- The system refuses to follow the path. -/
  | refused (reason : String)
  deriving DecidableEq, Repr

/-- The text of a failure to follow a path. -/
def LookupError.message : LookupError → String
  | .noEntry => "No such file or directory (os error 2)"
  | .notADirectory => "Not a directory (os error 20)"
  | .nameTooLong => "File name too long (os error 36)"
  | .refused reason => reason

namespace FileTree

variable {α : Type}

instance : Inhabited (FileTree α) := ⟨.directory []⟩

/-- Follows segments from a tree, below the directories `above` it, nearest one
first. -/
def follow (above : List (FileTree α)) (here : FileTree α) :
    List String → Except LookupError (FileTree α)
  | [] => .ok here
  | segment :: rest =>
    match here with
    | .file _ => .error .notADirectory
    | .directory entries =>
      if segment = "" || segment = "." then follow above here rest
      else if segment = ".." then
        match above with
        | [] => follow [] here rest
        | parent :: above => follow above parent rest
      else if Path.maxNameLength < segment.utf8ByteSize then .error .nameTooLong
      else
        match entries.lookup segment with
        | none => .error .noEntry
        | some entry => follow (here :: above) entry rest

/-! ## Building -/

/-- Entries with the one of a given name replaced, or added at the end. -/
def replaceEntry (name : String) (entry : FileTree α) :
    List (String × FileTree α) → List (String × FileTree α)
  | [] => [(name, entry)]
  | (other, old) :: rest =>
    if other = name then (name, entry) :: rest else (other, old) :: replaceEntry name entry rest

/-- The entries of a directory; a file has none. -/
def entries : FileTree α → List (String × FileTree α)
  | .file _ => []
  | .directory entries => entries

/-- A tree with a leaf put at the end of some segments; directories on the way
are made, and a leaf that is there already gives way. -/
def insert (leaf : FileTree α) : List String → FileTree α → FileTree α
  | [], _ => leaf
  | segment :: rest, tree =>
    let old := (tree.entries.lookup segment).getD (.directory [])
    .directory (replaceEntry segment (insert leaf rest old) tree.entries)

/-- The tree of some paths, each of which ends in a file with content or in an
empty directory. -/
def ofPaths (paths : List (String × Option α)) : FileTree α :=
  paths.foldl
    (fun tree (path, content) =>
      let leaf := match content with
        | some content => .file content
        | none => .directory []
      insert leaf (Path.segments path) tree)
    (.directory [])

end FileTree

end ClassOutline
