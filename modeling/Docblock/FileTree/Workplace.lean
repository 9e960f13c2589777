/-
# Docblock.FileTree.Workplace — finding files.

A program runs in a directory, from which relative paths begin, for a user with a home directory.
Following a path means to go from directory to directory and to replace every link on the way by
what it stands for, at most forty times.
-/
import Docblock.FileTree.Basic
import Docblock.Number.Numeral
import Docblock.Text.Quoted

namespace Docblock

/-- The files, and where among them a program runs. -/
structure Workplace where
  files : FileTree
  /-- The directory that relative paths begin from. -/
  here : List Text
  /-- The home directory of the user. -/
  home : List Text
  deriving Repr, Inhabited

/-- Why there is no file to be read or written at a path. -/
inductive Absence where
  | missing
  | notADirectory
  | isADirectory
  | tooManyLinks
  deriving DecidableEq, Repr, Inhabited

namespace Absence

/-- The number of a fault in the tables of the operating system. -/
def number : Absence → Nat
  | missing => 2
  | notADirectory => 20
  | isADirectory => 21
  | tooManyLinks => 40

/-- What is wrong, in words. -/
def reason : Absence → Text
  | missing => "No such file or directory".toList
  | notADirectory => "Not a directory".toList
  | isADirectory => "Is a directory".toList
  | tooManyLinks => "Too many levels of symbolic links".toList

/-- The fault of a path in words. -/
def message (a : Absence) (path : Text) : Text :=
  "[Errno ".toList ++ Numeral.ofNat a.number ++ "] ".toList ++ a.reason ++ ": ".toList
    ++ Text.quoted path

end Absence

namespace Workplace

/-- The names of a path from the root of all files, with links and `..` still in it. -/
def namesOf (w : Workplace) (p : Path) : List Text :=
  if p.absolute then p.parts else w.here ++ p.parts

/-- The home directory in the place of a tilde at the front; a tilde before a name asks for the home
of an unknown user. -/
def expand? (w : Workplace) (p : Path) : Option Path :=
  match p.parts with
  | ('~' :: user) :: rest =>
    if p.absolute then some p
    else if user.isEmpty then some (.ofParts (w.home ++ rest))
    else none
  | _ => some p

/-! ## Following -/

/-- Where names lead from the directory at `place`, when every link on the way is followed and every
name on the way is that of a directory. -/
def follow (files : FileTree) (links : Nat) (place : List Text) (names : List Text) :
    Except Absence (List Text) :=
  match names with
  | [] => .ok place
  | name :: rest =>
    match files.at? place with
    | none => .error .missing
    | some t =>
      if !t.isDirectory then .error .notADirectory
      else if name = "..".toList then follow files links place.dropLast rest
      else
        match t.entry? name, links with
        | none, _ => .error .missing
        | some (.link _), 0 => .error .tooManyLinks
        | some (.link p), links + 1 =>
          follow files links (if p.absolute then [] else place) (p.parts ++ rest)
        | some _, links => follow files links (place ++ [name]) rest
termination_by (links, names.length)

/-- The greatest number of links on the way to a file. -/
def maxLinks : Nat := 40

/-- The place that a path leads to. -/
def place (w : Workplace) (p : Path) : Except Absence (List Text) :=
  follow w.files maxLinks [] (w.namesOf p)

/-- What a path leads to. -/
def find (w : Workplace) (p : Path) : Except Absence FileTree := do
  let names ← w.place p
  match w.files.at? names with
  | some t => .ok t
  | none => .error .missing

/-- Whether a path leads to a directory. -/
def isDirectory (w : Workplace) (p : Path) : Bool :=
  match w.find p with
  | .ok t => t.isDirectory
  | .error _ => false

/-- Whether a path leads to anything. -/
def leadsOn (w : Workplace) (p : Path) : Bool := (w.find p).isOk

/-- The content of the file that a path leads to. -/
def read (w : Workplace) (p : Path) : Except Absence Octets := do
  match ← w.find p with
  | .file os => .ok os
  | _ => .error .isADirectory

/-! ## Plain paths -/

/-- Where names lead from `place` when links are followed as far as there are any; the rest is taken
as it is written. -/
def settle (files : FileTree) (links : Nat) (place : List Text) (names : List Text) :
    Except Absence (List Text) :=
  match names with
  | [] => .ok place
  | name :: rest =>
    if name = "..".toList then settle files links place.dropLast rest
    else
      match files.at? (place ++ [name]), links with
      | some (.link _), 0 => .error .tooManyLinks
      | some (.link p), links + 1 =>
        settle files links (if p.absolute then [] else place) (p.parts ++ rest)
      | _, links => settle files links (place ++ [name]) rest
termination_by (links, names.length)

/-- The path without links and without `..` that leads to the same place. -/
def plainPath (w : Workplace) (p : Path) : Except Absence Path := do
  return .ofParts (← settle w.files maxLinks [] (w.namesOf p))

/-! ## Writing -/

/-- The names of a path from the root of all files with every `..` taken back, whatever files there
are. -/
def lexicalNames (w : Workplace) (p : Path) : List Text :=
  (w.namesOf p).foldl (fun ns n => if n = "..".toList then ns.dropLast else ns ++ [n]) []

/-- Where names lead from the directory at `place` when a file is to be written there: as in
following them, but the last name need not be there yet. -/
def destination (files : FileTree) (links : Nat) (place : List Text) (names : List Text) :
    Except Absence (List Text) :=
  match names with
  | [] => .error .isADirectory
  | name :: rest =>
    match files.at? place with
    | none => .error .missing
    | some t =>
      if !t.isDirectory then .error .notADirectory
      else if name = "..".toList then destination files links place.dropLast rest
      else
        match t.entry? name, links with
        | none, _ => if rest.isEmpty then .ok (place ++ [name]) else .error .missing
        | some (.file _), _ => if rest.isEmpty then .ok (place ++ [name]) else .error .notADirectory
        | some (.directory _), links => destination files links (place ++ [name]) rest
        | some (.link _), 0 => .error .tooManyLinks
        | some (.link p), links + 1 =>
          destination files links (if p.absolute then [] else place) (p.parts ++ rest)
termination_by (links, names.length)

/-- The place of the file that would be written at a path: it is there or its directory is. -/
def target (w : Workplace) (p : Path) : Except Absence (List Text) :=
  destination w.files maxLinks [] (w.namesOf p)

/-- The place of the file that is opened at a path to be written; every `..` is taken back first. -/
def writingPlace (w : Workplace) (p : Path) : Except Absence (List Text) :=
  w.target (.ofParts (w.lexicalNames p))

/-- Write octets behind those of the file at a place. -/
def append (names : List Text) (os : Octets) (w : Workplace) : Workplace :=
  let old : Octets :=
    match w.files.at? names with
    | some (.file old) => old
    | _ => []
  { w with files := FileTree.put (.file (old ++ os)) names w.files }

end Workplace

end Docblock
