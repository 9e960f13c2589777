/-
# Docblock.Markdown.TableReader — the lines of a table.

A row is cut into cells at bars that no backslash stands before.  The line below the head consists
of dashes, colons and bars, and says how many columns there are and how they are aligned.
-/
import Docblock.Markdown.Block
import Docblock.Markdown.Line

namespace Docblock.Markdown

/-- The cells of a row.  `escaped` says that a backslash stands right before the text, `cell` is the
cell read so far, backwards. -/
def cellsFrom (escaped : Bool) (cell : Text) : Text → List Text
  | [] => [cell.reverse]
  | c :: r =>
    if c == '|' then
      if escaped then cellsFrom false (c :: cell.tail) r
      else cell.reverse :: cellsFrom false [] r
    else cellsFrom (c == '\\') (c :: cell) r

/-- The cells of a row, trimmed.  An empty cell at either end is no cell. -/
def cells (s : Text) : List Text :=
  let cs := cellsFrom false [] (Text.trim s)
  let cs := if cs.head? == some [] then cs.tail else cs
  let cs := if cs.getLast? == some [] then cs.dropLast else cs
  cs.map Text.trim

/-- The alignment that a piece of the line below the head stands for: dashes, with a colon at either
end or not. -/
def alignment? (s : Text) : Option Alignment :=
  let left := s.head? == some ':'
  let body := if left then s.tail else s
  let right := body.getLast? == some ':'
  let body := if right then body.dropLast else body
  if body.isEmpty || body.any (· != '-') then none
  else if left && right then some .center
  else if right then some .right
  else if left then some .left
  else some .unset

/-- The alignments on the line below the head.  Only at its ends may a piece between bars be
empty. -/
def alignments? (s : Text) : Option (List Alignment) :=
  let pieces := ((Text.trim s).splitOn '|').map Text.trim
  let pieces := if pieces.head? == some [] then pieces.tail else pieces
  let pieces := if pieces.getLast? == some [] then pieces.dropLast else pieces
  pieces.mapM alignment?

/-- Whether a line can be the one below the head: at least two characters that are dashes, colons,
bars and spaces, the first no space, and no dash with a space behind it in front. -/
def isRuler (s : Text) : Bool :=
  let isMark (c : Char) : Bool := c == '|' || c == '-' || c == ':'
  match s with
  | a :: b :: r =>
    isMark a && (isMark b || isIndent b) && !(a == '-' && isIndent b)
      && r.all fun c => isMark c || isIndent c
  | _ => false

/-- Fill up a row to as many cells as there are columns, or cut it. -/
def fitRow (columns : Nat) (row : List Text) : List Text :=
  (row ++ List.replicate (columns - row.length) []).take columns

/-- The largest number of cells that may be filled up in a table. -/
def maxFilled : Int := 65536

end Docblock.Markdown
