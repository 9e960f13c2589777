/-
# Docblock.Markdown.Line — lines and their columns.

Blocks are told apart by the columns at which their lines begin.  A line remembers its text from the
place where its container begins, how much of that is passed over before its content, and the column
of the content; tabs reach to the next column that is a multiple of four, counted from where the
container's own text begins.
-/
import Docblock.Text.Blank

namespace Docblock.Markdown

/-- A line of a container. -/
structure Line where
  /-- The text of the line inside the container. -/
  raw : Text
  /-- How many characters stand before the content. -/
  shift : Nat
  /-- The column of the content; it is negative on a line that can only continue a paragraph. -/
  indent : Int
  /-- The column at which tabs start to count. -/
  base : Nat
  /-- A line feed ends the line. -/
  ended : Bool
  deriving DecidableEq, Repr

namespace Line

/-- The content of a line. -/
def content (l : Line) : Text := l.raw.drop l.shift

/-- Whether a line has no content. -/
def isEmpty (l : Line) : Bool := l.raw.length ≤ l.shift

/-- The column behind a run of spaces and tabs that begins at `column`, when tabs are counted with
an offset. -/
def columnBehind (column offset : Nat) : Text → Nat
  | '\t' :: r => columnBehind (column + (4 - (column + offset) % 4)) offset r
  | ' ' :: r => columnBehind (column + 1) offset r
  | _ => column

/-- A line of a whole text. -/
def ofText (s : Text) (ended : Bool) : Line :=
  { raw := s, shift := (s.takeWhile isIndent).length, indent := columnBehind 0 0 s, base := 0,
    ended }

/-- The lines of a whole text.  Spaces behind the last line feed are no line. -/
def ofSource (s : Text) : List Line :=
  let ls := Text.lines s
  ls.dropLast.map (ofText · true)
    ++ (if (ls.getLastD []).all isIndent then [] else [ofText (ls.getLastD []) false])

/-- Remove columns from the front of a text: spaces, tabs, and the markers that the container counts
as space.  A tab that reaches too far leaves spaces behind. -/
def dropColumns (l : Line) (columns : Nat) : Nat → Nat → Text → Text
  | column, passed, s =>
    if columns ≤ column then Text.fill (column - columns) ' ' ++ s
    else
      match s with
      | [] => []
      | c :: r =>
        if c == '\t' then
          dropColumns l columns (column + (4 - (column + l.base) % 4)) (passed + 1) r
        else if c == ' ' || passed < l.shift then dropColumns l columns (column + 1) (passed + 1) r
        else c :: r

/-- The text of a line without its first columns. -/
def behind (columns : Nat) (l : Line) : Text := dropColumns l columns 0 0 l.raw

/-- The texts of lines without their first columns, a line feed between them. -/
def join (columns : Nat) (ls : List Line) : Text := Text.unlines (ls.map (behind columns))

/-- The texts of lines without their first columns, each with the line feed that ends it. -/
def whole (columns : Nat) (ls : List Line) : Text :=
  ls.flatMap fun l => behind columns l ++ if l.ended then ['\n'] else []

end Line

end Docblock.Markdown
