/-
  Command.lean --- printing the class files below some paths.

  Every class file that is found and decodes is printed below a comment with its
  path; every failure is logged, and one failure is enough for the command to
  fail.  What is printed does not depend on the logger.
-/
import ClassOutline.ClassFile.Decode
import ClassOutline.ClassFile.Render
import ClassOutline.FileTree.Walk
import ClassOutline.Log

set_option autoImplicit false

namespace ClassOutline.Command

open Log (Logger Record)

/-- The content of a class file, or why it cannot be opened. -/
abbrev Content : Type := Except String (List UInt8)

/-- The target of the command's own records. -/
def target : String := "jprint"

/-- The record of a failure. -/
def failure (message : String) : Record := ⟨.error, target, message⟩

/-- What the command answers to a finding. -/
structure Response where
  /-- What is printed. -/
  printed : String
  /-- What is handed to the log, in order. -/
  records : List Record
  failed : Bool
  deriving DecidableEq, Repr

/-- What is printed of a class file. -/
def page (path : String) (c : ClassFile) : String := "// " ++ path ++ "\n" ++ c.render ++ "\n\n"

/-- The answer to a class file. -/
def respondTo (path : String) : Content → Response
  | .error reason => ⟨"", [failure (path ++ ": " ++ reason)], true⟩
  | .ok bytes =>
    let outcome := ClassFile.decoder.run bytes
    let remarks := outcome.remarks.map Log.ofRemark
    match outcome.result with
    | .ok c =>
      ⟨page path c, remarks ++ [⟨.debug, target, path ++ ":\n" ++ c.pool.dump⟩], false⟩
    | .error e => ⟨"", remarks ++ [failure (path ++ ": " ++ e.message)], true⟩

/-- The answer to a finding. -/
def respond : Finding Content → Response
  | .classFile path content => respondTo path content
  | finding => ⟨"", finding.complaint?.toList.map failure, true⟩

/-- The answer to a call without arguments. -/
def usage : Record := failure "usage: jprint <path>..."

/-- The exit code after some answers. -/
def exitCode (responses : List Response) : Nat := if responses.any Response.failed then 1 else 0

/-- What a run of the command leaves behind. -/
structure Outcome where
  exit : Nat
  stdout : String
  stderr : String
  deriving DecidableEq, Repr

/-- What is handed to the log, given the findings of the arguments, `none` if there are
no arguments. -/
def records : Option (List (Finding Content)) → List Record
  | none => [usage]
  | some findings => (findings.map respond).flatMap Response.records

/-- Runs the command on the findings of its arguments, `none` if it has no
arguments. -/
def run (logger : Logger) (met : Option (List (Finding Content))) : Outcome :=
  match met with
  | none => ⟨2, "", logger (records none)⟩
  | some findings =>
    let responses := findings.map respond
    ⟨exitCode responses, String.join (responses.map Response.printed),
      logger (records (some findings))⟩

/-! ## Files -/

/-- What the system refuses of a directory or file that a path leads to, and why. -/
structure Refusals where
  /-- The reason if the directory at a path cannot be listed. -/
  listing : String → Option String
  /-- The reason if the file at a path cannot be opened. -/
  opening : String → Option String

/-- Nothing is refused. -/
def Refusals.empty : Refusals := ⟨fun _ => none, fun _ => none⟩

variable (refusals : Refusals) (system : FileSystem (List UInt8))

/-- The content of the file at a path; a directory has none. -/
def contentAt (path : String) : Content :=
  match system.at? path with
  | .ok (.file bytes) =>
    match refusals.opening path with
    | none => .ok bytes
    | some reason => .error reason
  | .ok (.directory _) => .error "Is a directory (os error 21)"
  | .error e => .error e.message

/-- The findings of an argument. -/
def findingsOf (path : String) : List (Finding Content) :=
  (system.walk refusals.listing path).map (Finding.withContent (contentAt refusals system))

/-- The findings of all arguments, `none` if there are none. -/
def met (args : List String) : Option (List (Finding Content)) :=
  if args.isEmpty then none else some (args.flatMap (findingsOf refusals system))

/-- Runs the command on its arguments. -/
def runUnder (logger : Logger) (args : List String) : Outcome :=
  run logger (met refusals system args)

end ClassOutline.Command
