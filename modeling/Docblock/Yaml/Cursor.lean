/-
# Docblock.Yaml.Cursor — a place in a document.

A cursor is what is still to be read, together with the number of characters before it, its line and
its column.  At the end of the text it stands on the null character, which occurs nowhere else in a
document.
-/
import Docblock.Text.Blank
import Docblock.Yaml.Fault

namespace Docblock.Yaml

/-! ## Classes of characters -/

/-- Whether a character breaks a line. -/
def isBreak (c : Char) : Bool :=
  c == '\n' || c == '\r' || c == '\x85' || c == '\u2028' || c == '\u2029'

/-- Whether a line ends at a character. -/
def isLineEnd (c : Char) : Bool := c == '\x00' || isBreak c

/-- Whether a character is a space or ends a line. -/
def isStop (c : Char) : Bool := c == ' ' || isLineEnd c

/-- Whether a character is a space or a tab or ends a line. -/
def isGap (c : Char) : Bool := c == '\t' || isStop c

/-- Whether a character may stand in a document. -/
def isPrintable (c : Char) : Bool :=
  let n := c.toNat
  n == 0x09 || n == 0x0A || n == 0x0D || (0x20 ≤ n && n ≤ 0x7E) || n == 0x85
    || (0xA0 ≤ n && n ≤ 0xFFFD) || 0x10000 ≤ n

/-! ## Cursors -/

/-- A place in a document. -/
structure Cursor where
  rest : Text
  index : Nat
  line : Nat
  column : Nat
  deriving Repr, Inhabited

namespace Cursor

/-- The beginning of a document. -/
def start (s : Text) : Cursor := { rest := s, index := 0, line := 0, column := 0 }

/-- The character `n` places behind the cursor. -/
def peekAt (n : Nat) (c : Cursor) : Char := c.rest.getD n '\x00'

/-- The character under the cursor. -/
def peek (c : Cursor) : Char := c.rest.headD '\x00'

/-- The place behind the next character.  A byte order mark has no width. -/
def next (c : Cursor) : Cursor :=
  match c.rest with
  | [] => c
  | x :: r =>
    let c := { c with rest := r, index := c.index + 1 }
    if isBreak x && !(x == '\r' && r.head? == some '\n') then
      { c with line := c.line + 1, column := 0 }
    else if x == '\ufeff' then c
    else { c with column := c.column + 1 }

/-- The place `n` characters further on. -/
def skip : Nat → Cursor → Cursor
  | 0, c => c
  | n + 1, c => skip n c.next

/-- The longest run of characters that satisfy `p`, and the place behind it. -/
def span (p : Char → Bool) (c : Cursor) : Text × Cursor :=
  let run := c.rest.takeWhile p
  (run, c.skip run.length)

/-- The place behind the longest run of characters that satisfy `p`. -/
def skipWhile (p : Char → Bool) (c : Cursor) : Cursor := (c.span p).2

/-- The place behind any spaces. -/
def skipSpaces (c : Cursor) : Cursor := c.skipWhile (· == ' ')

/-- The line break under the cursor, if there is one, and the place behind it.  All breaks but the
two separators of Unicode are read as a line feed. -/
def lineBreak (c : Cursor) : Text × Cursor :=
  match c.rest with
  | '\r' :: '\n' :: _ => (['\n'], c.skip 2)
  | x :: _ =>
    if x == '\u2028' || x == '\u2029' then ([x], c.next)
    else if isBreak x then (['\n'], c.next)
    else ([], c)
  | [] => ([], c)

/-- The place behind a remark, if one begins under the cursor. -/
def skipRemark (c : Cursor) : Cursor :=
  if c.peek == '#' then c.skipWhile (!isLineEnd ·) else c

/-- The beginning of the next line, when nothing but spaces and a remark are left on this one. -/
def closeLine? (c : Cursor) : Option Cursor :=
  let d := c.skipSpaces.skipRemark
  if isLineEnd d.peek then some d.lineBreak.2 else none

/-- Whether three equal marks stand at the beginning of the line, with a gap behind them. -/
def atMarks (mark : Char) (c : Cursor) : Bool :=
  c.column == 0 && (c.rest.take 3 == [mark, mark, mark]) && isGap (c.peekAt 3)

/-- Whether a document ends or begins here. -/
def atSeparator (c : Cursor) : Bool := c.atMarks '-' || c.atMarks '.'

end Cursor

end Docblock.Yaml
