/-
# Docblock.Text.CodeSet — sets of code points as lists of bounds.

Classes of characters taken from the Unicode character database are long unions of ranges.  Such a
set is written as one increasing list of bounds: its members are the numbers from the first bound up
to but excluding the second, from the third up to but excluding the fourth, and so on.
-/
namespace Docblock

/-- A set of code points, given by the increasing list of places where membership changes. -/
structure CodeSet where
  bounds : List Nat

namespace CodeSet

/-- Whether an odd number of bounds is at most `n`, for an increasing list of bounds. -/
def covers : List Nat → Nat → Bool
  | [], _ => false
  | b :: bs, n => if n < b then false else !covers bs n

/-- Membership of a character. -/
def holds (s : CodeSet) (c : Char) : Bool := covers s.bounds c.toNat

end CodeSet

end Docblock
