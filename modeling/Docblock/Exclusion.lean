/-
# Docblock.Exclusion — patterns for paths that are left out.

A pattern is a text in which a star stands for any run of characters, slashes and line feeds
included, a question mark for any one character, and a bracketed class for one character of a set.
A pattern with a slash inside is compared with a whole path, any other with each part of it.  A
slash at the end restricts a pattern to directories.
-/
import Docblock.Text.Blank

namespace Docblock

/-! ## Patterns -/

/-- A piece of a pattern. -/
inductive GlobPiece where
  | literal (c : Char)
  | anyChar
  | anyRun
  /-- One character in, or outside, a union of ranges. -/
  | oneOf (negated : Bool) (ranges : List (Char × Char))
  deriving DecidableEq, Repr

namespace GlobPiece

/-- Whether a piece other than a run matches a character. -/
def holds (c : Char) : GlobPiece → Bool
  | literal d => c == d
  | anyChar => true
  | anyRun => false
  | oneOf negated ranges => (ranges.any fun (a, b) => a ≤ c && c ≤ b) != negated

/-- The ranges written in a class: two characters with a dash between them, or one by itself.
Ranges that run backwards are empty and left out. -/
def ranges : Text → List (Char × Char)
  | a :: '-' :: b :: r => if b < a then ranges r else (a, b) :: ranges r
  | a :: r => (a, a) :: ranges r
  | [] => []

/-- The inside of a class behind the empty ranges at its front. -/
def behindEmpty : Text → Text
  | a :: '-' :: b :: r => if b < a then behindEmpty r else a :: '-' :: b :: r
  | s => s

/-- The piece for a class with the given inside.  An exclamation mark in front of all members
negates it, also when empty ranges stand before; behind these it begins no range. -/
def ofClass (body : Text) : GlobPiece :=
  match body with
  | '!' :: r => oneOf true (ranges r)
  | _ =>
    match behindEmpty body with
    | '!' :: '-' :: b :: r => oneOf true (('-', '-') :: (b, b) :: ranges r)
    | '!' :: r => oneOf true (ranges r)
    | r => oneOf false (ranges r)

/-- The inside of a class behind its opening bracket, and the rest behind the closing one.  A
closing bracket at the front, or right behind an exclamation mark there, is a member. -/
def classBody? (s : Text) : Option (Text × Text) :=
  let (lead, r) : Text × Text :=
    match s with
    | '!' :: ']' :: r => (['!', ']'], r)
    | '!' :: r => (['!'], r)
    | ']' :: r => ([']'], r)
    | r => ([], r)
  match Text.cut [']'] r with
  | (body, some rest) => some (lead ++ body, rest)
  | (_, none) => none

end GlobPiece

/-- A pattern, as the list of its pieces. -/
abbrev Glob := List GlobPiece

namespace Glob

/-- The pattern written in a text.  A bracket that is never closed stands for itself. -/
def ofText (s : Text) : Glob :=
  match s with
  | [] => []
  | '*' :: r => .anyRun :: ofText r
  | '?' :: r => .anyChar :: ofText r
  | '[' :: r =>
    match GlobPiece.classBody? r with
    | some (body, rest) =>
      if rest.length < r.length + 1 then .ofClass body :: ofText rest else []
    | none => .literal '[' :: ofText r
  | c :: r => .literal c :: ofText r
termination_by s.length

/-- For each place of a text, whether some place at or before it is marked. -/
def spread (seen : Bool) : List Bool → List Bool
  | [] => []
  | b :: bs => (seen || b) :: spread (seen || b) bs

/-- Move the marks of places over one character each that the piece matches. -/
def advance (p : GlobPiece) (s : Text) (places : List Bool) : List Bool :=
  false :: List.zipWith (fun c b => b && p.holds c) s places

/-- The places of a text that can be reached by matching a pattern from the marked places on. -/
def reach (s : Text) : Glob → List Bool → List Bool
  | [], places => places
  | .anyRun :: ps, places => reach s ps (spread false places)
  | p :: ps, places => reach s ps (advance p s places)

/-- Whether a pattern matches the whole of a text. -/
def fits (g : Glob) (s : Text) : Bool :=
  (reach s g (true :: s.map fun _ => false)).getLast? == some true

end Glob

/-! ## Rules of exclusion -/

/-- A pattern for paths. -/
structure Exclusion where
  pattern : Text
  directoryOnly : Bool
  hasSlash : Bool
  deriving DecidableEq, Repr

namespace Exclusion

/-- The rule written in a text, or none when nothing but blanks and slashes is in it. -/
def ofText? (s : Text) : Option Exclusion :=
  let s := Text.trim s
  let pattern := Text.dropAround (· == '/') s
  if pattern.isEmpty then none
  else some { pattern, directoryOnly := Text.endsWith ['/'] s, hasSlash := pattern.contains '/' }

/-- Whether a rule leaves out the file or directory at a path. -/
def leavesOut (e : Exclusion) (path : Text) (isDirectory : Bool) : Bool :=
  let g := Glob.ofText e.pattern
  if e.directoryOnly && !isDirectory then false
  else if e.hasSlash then g.fits path
  else (path.splitOn '/').any g.fits

end Exclusion

end Docblock
