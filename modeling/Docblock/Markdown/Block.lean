/-
# Docblock.Markdown.Block — what a page is made of.

The blocks of a page.  Text that is still to be read as a line of inline parts is kept as it is
written.
-/
import Docblock.Markdown.LinkTarget

namespace Docblock.Markdown

/-- How the cells of a column are aligned. -/
inductive Alignment where
  | unset
  | left
  | right
  | center
  deriving DecidableEq, Repr

/-- A table: the alignment of each column, the cells of its head, and its rows. -/
structure Table where
  columns : List Alignment
  head : List Text
  rows : List (List Text)
  deriving DecidableEq, Repr

/-- A block. -/
inductive Block where
  | paragraph (s : Text)
  | heading (level : Nat) (s : Text)
  | rule
  | code (s : Text)
  | fenced (info s : Text)
  | html (s : Text)
  | quote (blocks : List Block)
  /-- A list, with the number of its first item when it is numbered.  In a tight list no paragraph
  is set off. -/
  | list (start : Option Nat) (tight : Bool) (items : List (List Block))
  | table (t : Table)
  | definition (d : Definition)
  deriving Repr, Inhabited

mutual

/-- The definitions in a block, in order. -/
def Block.definitions : Block → List Definition
  | .definition d => [d]
  | .quote bs => definitionsIn bs
  | .list _ _ items => definitionsInItems items
  | _ => []

/-- The definitions in blocks, in order. -/
def definitionsIn : List Block → List Definition
  | [] => []
  | b :: bs => b.definitions ++ definitionsIn bs

/-- The definitions in the items of a list, in order. -/
def definitionsInItems : List (List Block) → List Definition
  | [] => []
  | i :: is => definitionsIn i ++ definitionsInItems is

end

end Docblock.Markdown
