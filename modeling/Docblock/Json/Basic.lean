/-
# Docblock.Json.Basic — structured values.

The value type of the interchange format in which comments are handed out.  Whole numbers of any
size and floating-point numbers are kept apart, and the members of an object keep the order in which
they were written, so equal names can be told from a lost member.
-/
import Docblock.Number.Binary64
import Docblock.Text.Basic

namespace Docblock

/-- A structured value. -/
inductive Json where
  | null
  | bool (b : Bool)
  | int (i : Int)
  | float (x : Binary64)
  | string (s : Text)
  | array (items : List Json)
  | object (members : List (Text × Json))
  deriving Inhabited, Repr

namespace Json

/-- The last member of the given name. -/
def member? (name : Text) : Json → Option Json
  | .object ms => ms.reverse.lookup name
  | _ => none

/-- A string, or null when there is none. -/
def ofText? : Option Text → Json
  | some s => .string s
  | none => .null

end Json

end Docblock
