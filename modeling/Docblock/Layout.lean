/-
# Docblock.Layout — the division of a source into code and block comments.

A source is code, then block comments with code behind each of them.  A block comment opens at a
slash and a star outside every line comment and closes at the next star and slash; the last one may
be left open.  An exclamation mark right behind the opening marker sets the comment apart.  A line
comment is part of the code it stands in: from two slashes on, nothing opens a block comment before
the line ends.
-/
import Docblock.Text.Basic

namespace Docblock

/-- The inside of a block comment. -/
structure BlockComment where
  /-- An exclamation mark stood behind the opening marker; it is not part of the body. -/
  marked : Bool
  body : Text
  /-- The closing marker was there. -/
  closed : Bool
  deriving DecidableEq, Repr

namespace BlockComment

/-- The number of characters between the opening marker and the body. -/
def markLength (b : BlockComment) : Nat := if b.marked then 1 else 0

/-- The number of characters of the whole comment, markers included. -/
def length (b : BlockComment) : Nat :=
  2 + b.markLength + b.body.length + (if b.closed then 2 else 0)

end BlockComment

/-- A source taken apart: the code in front of the first block comment, and each block comment with
the code behind it. -/
structure Layout where
  lead : Text
  parts : List (BlockComment × Text)
  deriving DecidableEq, Repr

namespace Layout

/-- The run of code at the front of a source, and what stands behind the marker that opens the next
block comment, if any.  The first argument says that a line comment has begun on this line. -/
def codeRun : Bool → Text → Text × Option Text
  | _, [] => ([], none)
  | true, c :: r => Text.push c (codeRun (c != '\n') r)
  | false, '/' :: '*' :: r => ([], some r)
  | false, '/' :: '/' :: r => Text.push '/' (Text.push '/' (codeRun true r))
  | false, c :: r => Text.push c (codeRun false r)

/-- The exclamation mark at the front of a comment, and the rest. -/
def mark : Text → Bool × Text
  | '!' :: r => (true, r)
  | s => (false, s)

theorem mark_length_le (s : Text) : (mark s).2.length ≤ s.length := by
  unfold mark
  split <;> simp

theorem codeRun_length_lt (b : Bool) (s r : Text) (h : (codeRun b s).2 = some r) :
    r.length < s.length := by
  fun_induction codeRun b s <;> simp_all [Text.push] <;> omega

/-- The block comments of a source and the code behind each, from behind the first opening marker
on. -/
def partsFrom (s : Text) : List (BlockComment × Text) :=
  match _ : Text.cut ['*', '/'] (mark s).2 with
  | (body, none) => [(⟨(mark s).1, body, false⟩, [])]
  | (body, some r) =>
    match _ : codeRun false r with
    | (code, none) => [(⟨(mark s).1, body, true⟩, code)]
    | (code, some r') => (⟨(mark s).1, body, true⟩, code) :: partsFrom r'
termination_by s.length
decreasing_by
  have h₁ := mark_length_le s
  have h₂ := Text.cut_length_le ['*', '/'] (mark s).2 r (by simp [*])
  have h₃ := codeRun_length_lt false r r' (by simp [*])
  omega

/-- The layout of a source. -/
def ofSource (s : Text) : Layout :=
  match codeRun false s with
  | (lead, none) => ⟨lead, []⟩
  | (lead, some r) => ⟨lead, partsFrom r⟩

end Layout

end Docblock
