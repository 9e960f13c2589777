/-
# Docblock.FileTree.Path — paths in writing.

A path is a list of names.  Slashes separate the names; an empty name and the name `.` say nothing
and are dropped, while `..` is kept, because what it leads to depends on the files there are.
-/
import Docblock.Text.Basic

namespace Docblock

/-- A path: whether it begins at the root of all files, and the names in it. -/
structure Path where
  absolute : Bool
  parts : List Text
  deriving DecidableEq, Repr, Inhabited

namespace Path

/-- The path that a text writes. -/
def ofText (s : Text) : Path :=
  { absolute := Text.beginsWith ['/'] s
    parts := (Text.pieces ['/'] s).filter fun p => !p.isEmpty && p ≠ ['.'] }

/-- Names with slashes between them. -/
def joined (parts : List Text) : Text := Text.join ['/'] parts

/-- The written form of a path. -/
def text (p : Path) : Text :=
  if p.absolute then '/' :: joined p.parts
  else if p.parts.isEmpty then ['.']
  else joined p.parts

/-- The path from the root of all files with the given names. -/
def ofParts (parts : List Text) : Path := { absolute := true, parts }

/-- The last name of a path. -/
def name (p : Path) : Text := p.parts.getLast?.getD []

end Path

end Docblock
