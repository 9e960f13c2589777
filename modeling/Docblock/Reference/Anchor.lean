/-
# Docblock.Reference.Anchor — names for the places that links lead to.

An anchor is made from a title: in lower case, with nothing but ASCII letters, digits and dashes, a
dash for each blank, and no dash at either end.  When several titles make the same anchor, all but
the first get the number of their predecessors behind it.
-/
import Docblock.Number.Numeral
import Docblock.Text.Case

namespace Docblock

namespace Anchor

/-- Whether a character of a lower-case title is kept. -/
def isKept (c : Char) : Bool := c.isLower || c.isDigit || isBlank c || c == '-'

/-- The anchor of a title, before it is told apart from others. -/
def base (title : Text) : Text :=
  let kept := (Text.lower title).filter isKept
  Text.dropAround (· == '-') (kept.map fun c => if isBlank c then '-' else c)

/-- An anchor with the number of earlier ones from the same base. -/
def numbered (b : Text) (k : Nat) : Text := if k = 0 then b else b ++ '-' :: Numeral.ofNat k

/-- The anchors of titles in order, given the bases of earlier ones. -/
def assignFrom (earlier : List Text) : List Text → List Text
  | [] => []
  | t :: ts => numbered (base t) (earlier.count (base t)) :: assignFrom (base t :: earlier) ts

/-- The anchors of titles, in order. -/
def assign (titles : List Text) : List Text := assignFrom [] titles

end Anchor

end Docblock
