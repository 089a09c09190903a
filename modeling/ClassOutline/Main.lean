/-
  Main.lean --- the command line.

  Reads the directories and files that the arguments name, and prints and logs
  what `Command` answers to them.
-/
import ClassOutline.Command

set_option autoImplicit false

namespace ClassOutline.Main

/-- The reason of a failure, as the system words it. -/
def reasonOf : IO.Error → String
  | .noFileOrDirectory _ _ _ => LookupError.noEntry.message
  | .inappropriateType _ _ _ => LookupError.notADirectory.message
  | .invalidArgument _ _ _ => LookupError.nameTooLong.message
  | .permissionDenied _ _ _ => "Permission denied (os error 13)"
  | e => toString e

/-- What is there at a path, without the content of files. -/
structure Survey where
  tree : FileTree Unit
  /-- The directories that could not be listed, each with the reason. -/
  unlisted : List (String × String)
  /-- The entries whose paths could not be followed. -/
  blocked : List String

/-- Looks at a path and everything below it. -/
partial def survey (path : String) : IO Survey := do
  let here := (IO.FS.DirEntry.mk path "").root
  if ← here.isDir then
    match ← here.readDir.toBaseIO with
    | .error e => return ⟨.directory [], [(path, reasonOf e)], []⟩
    | .ok listing =>
      let mut entries := []
      let mut unlisted := []
      let mut blocked := []
      for entry in listing do
        let below ← survey (Path.join path entry.fileName)
        entries := (entry.fileName, below.tree) :: entries
        unlisted := below.unlisted ++ unlisted
        blocked := below.blocked ++ blocked
      return ⟨.directory entries, unlisted, blocked⟩
  else if ← here.pathExists then return ⟨.file (), [], []⟩
  else return ⟨.file (), [], [path]⟩

/-- What a walk from a path meets. -/
def findings (path : String) : IO (List (Finding Unit)) := do
  let found ← survey path
  if path.isEmpty || found.blocked.contains path then return FileTree.unreached path
  else
    return found.tree.findings (fun place => found.blocked.contains place)
      (fun directory => found.unlisted.lookup directory) path

/-- The content of a class file, or why it cannot be opened. -/
def contentAt (path : String) : IO Command.Content := do
  match ← (IO.FS.readBinFile path).toBaseIO with
  | .ok bytes => return .ok bytes.toList
  | .error e => return .error (reasonOf e)

/-- A finding with the content that it has now. -/
def readContent : Finding Unit → IO (Finding Command.Content)
  | .classFile path _ => do return .classFile path (← contentAt path)
  | .unlisted path reason => return .unlisted path reason
  | .missing path => return .missing path

/-- Prints the class files below the paths that are given as arguments, and returns the
exit code. -/
def run (logger : Log.Logger) (args : List String) : IO UInt32 := do
  let met ←
    if args.isEmpty then pure none
    else
      let found ← args.mapM fun path => do (← findings path).mapM readContent
      pure (some found.flatten)
  let outcome := Command.run logger met
  IO.print outcome.stdout
  IO.eprint outcome.stderr
  return UInt32.ofNat outcome.exit

end ClassOutline.Main
