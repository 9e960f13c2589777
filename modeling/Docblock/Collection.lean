/-
# Docblock.Collection — gathering sources.

A path leads to a file, which is a source whatever its name, or to a directory, all of which is
searched.  In every directory its own files come first, then those of the directories in it, both in
the order of their names.  Links to directories are not followed, and some directories never hold
sources of one's own.
-/
import Docblock.Exclusion
import Docblock.FileTree.Workplace
import Docblock.Log.Record
import Docblock.Scan
import Docblock.Text.Case

namespace Docblock

/-- A file with a source in it. -/
structure SourceFile where
  path : Path
  /-- The path from the directory that was searched, or as it was given. -/
  relative : Text
  text : Text
  deriving DecidableEq, Repr, Inhabited

/-- What to look for in directories. -/
structure Search where
  /-- The ends of the names of sources. -/
  extensions : List Text
  exclusions : List Exclusion
  deriving DecidableEq, Repr

/-- Why sources cannot be gathered. -/
inductive SourceFault where
  | notFound (path : Text)
  | unreadable (path : Path) (a : Absence)
  | undecodable (path : Path) (f : Utf8.Fault)
  /-- The home directory of an unknown user is asked for. -/
  | unknownUser
  deriving DecidableEq, Repr

/-- A fault of octets in words. -/
def Utf8.Fault.message (f : Utf8.Fault) : Text :=
  let what : Text :=
    if f.count = 1 then
      "byte 0x".toList ++ Text.hexDigits 2 f.octet.toNat ++ " in position ".toList
        ++ Numeral.ofNat f.position
    else
      "bytes in position ".toList ++ Numeral.ofNat f.position ++ '-'
        :: Numeral.ofNat (f.position + f.count - 1)
  let why : String :=
    match f.reason with
    | .invalidStart => "invalid start byte"
    | .invalidContinuation => "invalid continuation byte"
    | .unexpectedEnd => "unexpected end of data"
  "'utf-8' codec can't decode ".toList ++ what ++ ": ".toList ++ why.toList

namespace SourceFault

/-- What is told of a fault. -/
def message? : SourceFault → Option Text
  | notFound path => some ("Source path not found: ".toList ++ path)
  | unreadable path a =>
    some ("Unable to read ".toList ++ path.text ++ ": ".toList ++ a.message path.text)
  | undecodable path f =>
    some ("Unable to read ".toList ++ path.text ++ ": ".toList ++ f.message)
  | unknownUser => none

end SourceFault

namespace Search

/-- What to look for, given the ends of names and the patterns of what is left out. -/
def of (extensions patterns : List Text) : Search :=
  { extensions := extensions.map Text.lower, exclusions := patterns.filterMap Exclusion.ofText? }

/-- The directories that are never searched. -/
def neverSearched : List Text :=
  [".git", ".hg", ".svn", ".venv", "node_modules", "bower_components", "__pycache__",
    ".idea"].map String.toList

/-- Whether a rule leaves out what is at a path. -/
def excludes (q : Search) (path : Text) (isDirectory : Bool) : Bool :=
  q.exclusions.any (·.leavesOut path isDirectory)

/-- Whether the file of the given name at a path is looked for. -/
def wantsFile (q : Search) (name path : Text) : Bool :=
  (q.extensions.any fun e => Text.endsWith e (Text.lower name)) && !q.excludes path false

/-- Whether the directory of the given name at a path is searched. -/
def wantsDirectory (q : Search) (name path : Text) : Bool :=
  !neverSearched.contains name && !q.excludes path true

/-- Whether a text does not come after another in the order of code points. -/
def inOrder (a b : Text) : Bool := !List.lex b a (fun x y => decide (x < y))

/-- Named things in the order of their names. -/
def sorted {α : Type} (xs : List (Text × α)) : List (Text × α) :=
  xs.mergeSort fun a b => inOrder a.1 b.1

mutual

/-- The files below the directory at `place`, as lists of names from there.  `prior` are the names
from the directory where the search began, and `leads` says which links lead to directories. -/
def below (q : Search) (leads : List Text → Bool) (prior : List Text) :
    FileTree → List (List Text)
  | .directory es =>
    (sorted (filesIn q leads prior es)).map (·.2)
      ++ (sorted (directoriesIn q leads prior es)).flatMap (·.2)
  | _ => []

/-- The files among the entries of a directory. -/
def filesIn (q : Search) (leads : List Text → Bool) (prior : List Text) :
    List (Text × FileTree) → List (Text × List Text)
  | [] => []
  | (name, t) :: es =>
    let names := prior ++ [name]
    let isFile : Bool :=
      match t with
      | .file _ => true
      | .link _ => !leads names
      | .directory _ => false
    if isFile && q.wantsFile name (Path.joined names) then (name, names) :: filesIn q leads prior es
    else filesIn q leads prior es

/-- What is below each of the directories among the entries of a directory. -/
def directoriesIn (q : Search) (leads : List Text → Bool) (prior : List Text) :
    List (Text × FileTree) → List (Text × List (List Text))
  | [] => []
  | (name, t) :: es =>
    let names := prior ++ [name]
    if t.isDirectory && q.wantsDirectory name (Path.joined names) then
      (name, below q leads names t) :: directoriesIn q leads prior es
    else directoriesIn q leads prior es

end

/-- Read the source at a path. -/
def readSource (w : Workplace) (path : Path) (relative : Text) :
    Except SourceFault SourceFile := do
  let os ← (w.read path).mapError (.unreadable path)
  let s ← (Utf8.decode os).mapError (.undecodable path)
  return { path, relative, text := unifyNewlines s }

/-- The sources below the directory at a place. -/
def searchDirectory (q : Search) (w : Workplace) (root : List Text) :
    Except SourceFault (List SourceFile) :=
  let leads (names : List Text) : Bool := w.isDirectory (.ofParts (root ++ names))
  let found := ((w.files.at? root).map (below q leads [])).getD []
  found.mapM fun names => readSource w (.ofParts (root ++ names)) (Path.joined names)

/-- The sources that a path leads to. -/
def gather (q : Search) (w : Workplace) (given : Text) : Except SourceFault (List SourceFile) :=
  match w.expand? (.ofText given) with
  | none => .error .unknownUser
  | some path =>
    match w.place path with
    | .error _ => .error (.notFound given)
    | .ok place =>
      if w.isDirectory path then searchDirectory q w place
      else return [← readSource w path path.text]

/-- The report on how many sources there are. -/
def countRecord (n : Nat) : LogRecord :=
  .of .debug "sources" ("Collected ".toList ++ Numeral.ofNat n ++ " source file(s)".toList)

/-- The sources that several paths lead to, one path after the other. -/
def collect (q : Search) (w : Workplace) (paths : List Text) :
    Except SourceFault (List SourceFile) := do
  return (← paths.mapM (gather q w)).flatten

end Search

end Docblock
