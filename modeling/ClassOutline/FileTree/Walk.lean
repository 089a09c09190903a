/-
  FileTree/Walk.lean --- the class files below a path.

  A walk descends into every directory that can be listed, entries by the order
  of their names, and meets the files that are named like class files.  A
  directory that cannot be listed, and a path that leads nowhere, are met as such
  and change nothing about the rest of the walk.  The path of an entry leads
  nowhere if it cannot be followed, although the entry is there.
-/
import ClassOutline.FileSystem

set_option autoImplicit false

namespace ClassOutline

/-- What a walk meets.  A class file comes with what is known of its content. -/
inductive Finding (β : Type) where
  /-- A path that is named like a class file and leads to no directory. -/
  | classFile (path : String) (content : β)
  /-- A directory that could not be listed. -/
  | unlisted (path reason : String)
  /-- A path that leads nowhere and is not named like a class file. -/
  | missing (path : String)
  deriving DecidableEq, Repr

namespace Finding

variable {β γ : Type}

/-- The same finding with another content, chosen by the path. -/
def withContent (content : String → γ) : Finding β → Finding γ
  | .classFile path _ => .classFile path (content path)
  | .unlisted path reason => .unlisted path reason
  | .missing path => .missing path

/-- The path of a class file that was met. -/
def visited? : Finding β → Option String
  | .classFile path _ => some path
  | _ => none

/-- What is said of a finding that is a failure in itself. -/
def complaint? : Finding β → Option String
  | .classFile _ _ => none
  | .unlisted path reason => some (path ++ ": " ++ reason)
  | .missing path => some (path ++ ": no such file or directory")

/-- Whether a finding is a failure, given which visits succeed. -/
def isFailure (succeeds : String → Bool) : Finding β → Bool
  | .classFile path _ => !succeeds path
  | _ => true

/-- Visits the class files among some findings, one after the other, and counts the
failures.  A visit may have any effects; whether it succeeds is its result. -/
def tally {m : Type → Type} [Monad m] (visit : String → m Bool) : List (Finding β) → m Nat
  | [] => pure 0
  | .classFile path _ :: rest => do
    let succeeded ← visit path
    let failures ← tally visit rest
    return (if succeeded then 0 else 1) + failures
  | .unlisted _ _ :: rest => do
    let failures ← tally visit rest
    return 1 + failures
  | .missing _ :: rest => do
    let failures ← tally visit rest
    return 1 + failures

end Finding

namespace FileTree

variable {α : Type}

/-- Findings in entries, by the order of the entries' names. -/
def inOrder (found : List (String × List (Finding Unit))) : List (Finding Unit) :=
  (found.mergeSort fun a b => decide (a.1 ≤ b.1)).flatMap Prod.snd

/-- What a walk meets at a path that leads nowhere. -/
def unreached (path : String) : List (Finding Unit) :=
  if Path.isClassFile path then [.classFile path ()] else [.missing path]

mutual

/-- What a walk meets in a tree at a path.  `blocked` tells which paths cannot be
followed; `refusal` tells of which directories the listing is refused, and why. -/
def findings (blocked : String → Bool) (refusal : String → Option String) (path : String) :
    FileTree α → List (Finding Unit)
  | .file _ => if Path.isClassFile path then [.classFile path ()] else []
  | .directory entries =>
    match refusal path with
    | some reason => [.unlisted path reason]
    | none => inOrder (entryFindings blocked refusal path entries)

/-- What a walk meets in each entry of the directory at a path. -/
def entryFindings (blocked : String → Bool) (refusal : String → Option String) (path : String) :
    List (String × FileTree α) → List (String × List (Finding Unit))
  | [] => []
  | (name, entry) :: rest =>
    let below := Path.join path name
    (name, if blocked below then unreached below else findings blocked refusal below entry) ::
      entryFindings blocked refusal path rest

end

end FileTree

/-- What a walk from a path meets. -/
def FileSystem.walk {α : Type} (system : FileSystem α) (refusal : String → Option String)
    (path : String) : List (Finding Unit) :=
  match system.at? path with
  | .ok node => node.findings system.isBlocked refusal path
  | .error _ => FileTree.unreached path

end ClassOutline
