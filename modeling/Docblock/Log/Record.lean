/-
# Docblock.Log.Record — what happens, in records.

A record says which part of the program reports, how urgent it is, and what is reported.  The parts
are named by paths below one root; urgencies are ordered by a number.
-/
import Docblock.Text.Basic

namespace Docblock

/-- How urgent a record is. -/
inductive Level where
  | debug
  | info
  | warning
  | error
  | critical
  deriving DecidableEq, Repr, Inhabited

namespace Level

/-- The number by which levels are compared. -/
def rank : Level → Nat
  | debug => 10
  | info => 20
  | warning => 30
  | error => 40
  | critical => 50

/-- The name of a level. -/
def name : Level → Text
  | debug => "DEBUG".toList
  | info => "INFO".toList
  | warning => "WARNING".toList
  | error => "ERROR".toList
  | critical => "CRITICAL".toList

/-- The level from which on records are delivered, when much is to be told or not. -/
def least (verbose : Bool) : Level := if verbose then debug else info

end Level

/-- One record. -/
structure LogRecord where
  level : Level
  source : Text
  message : Text
  deriving DecidableEq, Repr, Inhabited

namespace LogRecord

/-- The root of all names of parts. -/
def root : Text := "dox".toList

/-- The full name of a part below the root; the empty name is the root itself. -/
def sourceName (part : Text) : Text := if part.isEmpty then root else root ++ '.' :: part

/-- A record of a part of the program. -/
def of (level : Level) (part : String) (message : Text) : LogRecord :=
  { level, source := sourceName part.toList, message }

/-- The line that keeps a record in a file: level, part and message. -/
def fileLine (r : LogRecord) : Text :=
  r.level.name ++ ' ' :: r.source ++ ": ".toList ++ r.message

/-- The line that shows a record to the user: the program, the level and the message. -/
def screenLine (r : LogRecord) : Text :=
  '[' :: root ++ "] ".toList ++ r.level.name ++ ' ' :: r.message

end LogRecord

end Docblock
