/-
# Docblock.Log.Session — delivery that is set up again and again.

While a program runs, the delivery of records may be set up several times, and records are reported
before, between and after.  The outlets of the root are what records go out by: the screen, and a
file when one was named.  Setting up takes all outlets away, one after the other, and adds new ones.
A record that meets no outlet on its way up is shown as it is when it is a warning or worse.
-/
import Docblock.FileTree.Workplace
import Docblock.Log.Source

namespace Docblock

/-- A way out for records. -/
structure Outlet where
  /-- The least urgent records that go out here. -/
  level : Level
  /-- The place of the file that they go to; without one they go to the screen. -/
  file : Option (List Text)
  deriving DecidableEq, Repr, Inhabited

/-- The outlets without those of a list, which are taken away one after the other. -/
def Outlet.without (os : List Outlet) : List Outlet → List Outlet
  | [] => os
  | o :: rest => without (os.erase o) rest

/-- Where a program stands that reports. -/
structure Session where
  workplace : Workplace
  /-- All that has come to the screen. -/
  screen : Text
  /-- The names of sources that have been asked for. -/
  known : List Text
  /-- The least urgent records that the root takes, once it has been set up. -/
  level : Option Level
  /-- The outlets of the root. -/
  outlets : List Outlet
  deriving Repr, Inhabited

/-- What a part of the program has to report. -/
structure LogMessage where
  /-- The time, which stands in front in a file. -/
  time : Text
  /-- The name of the part below the root. -/
  part : Text
  level : Level
  text : Text
  deriving DecidableEq, Repr, Inhabited

/-- The record of a message. -/
def LogMessage.record (m : LogMessage) : LogRecord :=
  { level := m.level, source := LogRecord.sourceName m.part, message := m.text }

/-- What happens while a program reports. -/
inductive LogEvent where
  /-- Delivery is set up, with a file or without. -/
  | setUp (verbose : Bool) (file : Option Path)
  | message (m : LogMessage)
  deriving DecidableEq, Repr

namespace Session

/-- A program that has not set anything up. -/
def start (w : Workplace) : Session :=
  { workplace := w, screen := [], known := [], level := none, outlets := [] }

/-- Ask for a source. -/
def know (name : Text) (s : Session) : Session :=
  if s.known.contains name then s else { s with known := name :: s.known }

/-- Take all outlets away and add the screen. -/
def reset (verbose : Bool) (s : Session) : Session :=
  let level := Level.least verbose
  let s := s.know LogRecord.root
  { s with
    level := some level
    outlets := Outlet.without s.outlets s.outlets ++ [{ level, file := none }] }

/-- Add a file to the outlets; it is made when it is not there. -/
def attach (verbose : Bool) (place : List Text) (s : Session) : Session :=
  { s with
    workplace := s.workplace.append place []
    outlets := s.outlets ++ [{ level := .least verbose, file := some place }] }

/-- Set up delivery. -/
def setUp (verbose : Bool) (file : Option Path) (s : Session) : Except Absence Session :=
  match file with
  | none => .ok (s.reset verbose)
  | some p => do
    let place ← s.workplace.writingPlace p
    return (s.reset verbose).attach verbose place

/-- A text on the screen. -/
def display (text : Text) (s : Session) : Session := { s with screen := s.screen ++ text }

/-- A record at an outlet. -/
def deliver (time : Text) (r : LogRecord) (s : Session) (o : Outlet) : Session :=
  if o.level.rank ≤ r.level.rank then
    match o.file with
    | none => s.display (r.screenLine ++ ['\n'])
    | some place =>
      { s with workplace := s.workplace.append place (Utf8.encode (time ++ r.fileLine ++ ['\n'])) }
  else s

/-- The level from which on records of a source are delivered. -/
def leastOf (source : Text) (s : Session) : Level :=
  if LogSource.reachesRoot s.known source then s.level.getD .warning else .warning

/-- The outlets that records of a source come to. -/
def outletsOf (source : Text) (s : Session) : List Outlet :=
  if LogSource.reachesRoot s.known source then s.outlets else []

/-- A record at several outlets, or shown as it is when there are none. -/
def dispatch (time : Text) (r : LogRecord) (s : Session) : List Outlet → Session
  | [] => if Level.warning.rank ≤ r.level.rank then s.display (r.message ++ ['\n']) else s
  | os => os.foldl (deliver time r) s

/-- Report a record. -/
def report (time : Text) (r : LogRecord) (s : Session) : Session :=
  let s := s.know r.source
  if (s.leastOf r.source).rank ≤ r.level.rank then s.dispatch time r (s.outletsOf r.source) else s

/-- What an event makes of a session. -/
def step (s : Session) : LogEvent → Except Absence Session
  | .setUp verbose file => s.setUp verbose file
  | .message m => .ok (s.report m.time m.record)

/-- What several events make of a session, one after the other. -/
def run (s : Session) : List LogEvent → Except Absence Session
  | [] => .ok s
  | e :: es => do (← s.step e).run es

end Session

end Docblock
