/-
  FileSystem.lean --- the tree that all paths lead into.

  An absolute path starts at the root, any other one at the working directory.  A
  path that has too many bytes is not followed at all, nor is one that the system
  refuses to follow: to follow a path, every directory on its way has to be
  searched, and that may be forbidden where listing is not.
-/
import ClassOutline.FileTree.Basic

set_option autoImplicit false

namespace ClassOutline

/-- All directories and files, as they are seen from one of the directories. -/
structure FileSystem (α : Type) where
  /-- The directory that absolute paths start from. -/
  root : FileTree α
  /-- The segments that lead from the root to the directory that all other paths start
  from. -/
  workingDirectory : List String
  /-- The reason if the system refuses to follow a path. -/
  barred : String → Option String
  /-- The working directory is there. -/
  isDirectory : ∃ entries, root.follow [] workingDirectory = .ok (.directory entries)

namespace FileSystem

variable {α : Type}

/-- The segments that are followed from the root for a path. -/
def segments (system : FileSystem α) (path : String) : List String :=
  if Path.isAbsolute path then Path.segments path
  else system.workingDirectory ++ Path.segments path

/-- What a path leads to.  The empty path leads nowhere. -/
def at? (system : FileSystem α) (path : String) : Except LookupError (FileTree α) :=
  if path = "" then .error .noEntry
  else if Path.isTooLong path then .error .nameTooLong
  else
    match system.barred path with
    | some reason => .error (.refused reason)
    | none => system.root.follow [] (system.segments path)

/-- Whether a path cannot be followed, whatever it should lead to. -/
def isBlocked (system : FileSystem α) (path : String) : Bool :=
  Path.isTooLong path || (system.barred path).isSome

/-- The file system in which there is nothing but a working directory with some
entries. -/
def ofEntries (entries : List (String × FileTree α)) (barred : String → Option String) :
    FileSystem α where
  root := .directory [("work", .directory entries)]
  workingDirectory := ["work"]
  barred := barred
  isDirectory := ⟨entries, rfl⟩

end FileSystem

end ClassOutline
