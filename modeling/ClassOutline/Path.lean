/-
  Path.lean --- paths as texts.

  A path is kept exactly as it was given, since it is shown that way: joining
  adds to its end and changes nothing before.
-/
set_option autoImplicit false

namespace ClassOutline.Path

/-- The parts of a text between its slashes. -/
def split (cs : List Char) : List (List Char) :=
  cs.foldr
    (fun c parts =>
      if c = '/' then [] :: parts
      else
        match parts with
        | [] => [[c]]
        | part :: rest => (c :: part) :: rest)
    [[]]

theorem split_cons_slash (cs : List Char) : split ('/' :: cs) = [] :: split cs := by
  simp [split]

theorem split_ne_nil (cs : List Char) : split cs ≠ [] := by
  induction cs with
  | nil => simp [split]
  | cons c cs ih =>
    simp only [split, List.foldr_cons]
    split
    · simp
    · split <;> simp

theorem split_cons {c : Char} (hc : c ≠ '/') (cs : List Char) :
    ∃ part rest, split cs = part :: rest ∧ split (c :: cs) = (c :: part) :: rest := by
  obtain ⟨part, rest, h⟩ := List.exists_cons_of_ne_nil (split_ne_nil cs)
  refine ⟨part, rest, h, ?_⟩
  simp only [split] at h
  simp [split, hc, h]

/-- The segments of a path, empty ones included. -/
def segments (path : String) : List String := (split path.toList).map String.ofList

/-- Whether a path starts at the root instead of the directory it is followed
from. -/
def isAbsolute (path : String) : Bool := path.toList.head? = some '/'

/-- The most bytes that a path may have to be followed at all. -/
def maxLength : Nat := 4095

/-- Whether a path has too many bytes to be followed. -/
def isTooLong (path : String) : Bool := maxLength < path.utf8ByteSize

/-- The most bytes that the name of an entry may have. -/
def maxNameLength : Nat := 255

/-- The path of an entry in the directory at a path. -/
def join (path name : String) : String :=
  if path.isEmpty || path.toList.getLast? = some '/' then path ++ name else path ++ "/" ++ name

/-- The name that a path ends in: its last segment that is neither empty nor a
dot, unless that leads upwards. -/
def fileName? (path : String) : Option String :=
  match ((segments path).filter fun s => s != "" && s != ".").getLast? with
  | some name => if name = ".." then none else some name
  | none => none

/-- What follows the last dot of a name, if anything stands before that dot. -/
def extension? (name : String) : Option String :=
  let reversed := name.toList.reverse
  match reversed.dropWhile (· != '.') with
  | [] => none
  | [_] => none
  | _ => some (String.ofList (reversed.takeWhile (· != '.')).reverse)

/-- Whether a path is named like a class file. -/
def isClassFile (path : String) : Bool := (fileName? path).bind extension? == some "class"

end ClassOutline.Path
