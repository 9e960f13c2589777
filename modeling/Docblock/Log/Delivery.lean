/-
# Docblock.Log.Delivery — where records go.

Records go to the screen and, when a file is named, to the end of that file as well.  Each time this
is set up, what was set up before is forgotten; so a record never goes anywhere twice.
-/
import Docblock.FileTree.Workplace
import Docblock.Log.Record

namespace Docblock

/-- How records are delivered. -/
structure Delivery where
  /-- The least urgent records that are delivered. -/
  level : Level
  /-- The place of the file that keeps them. -/
  file : Option (List Text)
  deriving DecidableEq, Repr, Inhabited

namespace Delivery

/-- Set up the delivery of records; the file is made when it is not there. -/
def setUp (w : Workplace) (verbose : Bool) (file : Option Path) :
    Except Absence (Workplace × Delivery) :=
  let level := Level.least verbose
  match file with
  | none => .ok (w, { level, file := none })
  | some p => do
    let place ← w.writingPlace p
    return (w.append place [], { level, file := some place })

/-- The number of places that a record goes to. -/
def count (d : Delivery) : Nat := 1 + d.file.toList.length

/-- Whether a record is delivered. -/
def admits (d : Delivery) (r : LogRecord) : Bool := d.level.rank ≤ r.level.rank

/-- What records show on the screen. -/
def onScreen (d : Delivery) (rs : List LogRecord) : Text :=
  (rs.filter d.admits).flatMap fun r => r.screenLine ++ ['\n']

/-- What records add to the file, each behind the time. -/
def inFile (d : Delivery) (time : Text) (rs : List LogRecord) : Text :=
  (rs.filter d.admits).flatMap fun r => time ++ r.fileLine ++ ['\n']

/-- The files after records have been kept. -/
def keep (d : Delivery) (time : Text) (rs : List LogRecord) (w : Workplace) : Workplace :=
  match d.file with
  | none => w
  | some place => w.append place (Utf8.encode (d.inFile time rs))

end Delivery

end Docblock
