/-
  Log.lean --- log records.

  A record has a level, a target and a message.  What a logger makes of the records
  is its own affair: it is handed all of them, whatever it shows.
-/
import ClassOutline.ConstantPool.Basic
import ClassOutline.Decoder.Basic

set_option autoImplicit false

namespace ClassOutline.Log

/-- How urgent a record is. -/
inductive Level where
  | error
  | warn
  | info
  | debug
  | trace
  deriving DecidableEq, Repr

/-- Something to be logged. -/
structure Record where
  level : Level
  target : String
  message : String
  deriving DecidableEq, Repr

/-- What is shown of the records that are handed to a logger, in order. -/
abbrev Logger : Type := List Record → String

/-- The target of what a decoder remarks on. -/
def decoderTarget : String := "jclass_class_file::parser"

/-- A remark of a decoder as a record. -/
def ofRemark : Remark → Record
  | .versionRead major minor => ⟨.debug, decoderTarget, s!"class file version {major}.{minor}"⟩
  | .entryRead index entry => ⟨.trace, decoderTarget, s!"#{index} = {entry.text}"⟩
  | .attributeRead name length =>
    ⟨.trace, decoderTarget, s!"attribute {name} ({length} bytes)"⟩

end ClassOutline.Log
