/-
# Docblock.OwnerBlock — blocks of code that give their members an owner.

Members written in shorthand do not name the object they belong to.  Their owner is read off the
block around them: an object assigned to a prototype, or one that a prototype is extended with.  A
block opens on a line of its own and closes on the first line that is indented as far and begins
with the closing marker; a block that never closes ends right behind its opening marker.
-/
import Docblock.Text.Blank
import Docblock.Text.Word

namespace Docblock

/-- Whether a character may stand in an identifier. -/
def isIdentifier (c : Char) : Bool := isWord c || c == '$'

/-- Whether a character may stand in a dotted path of identifiers. -/
def isPath (c : Char) : Bool := isIdentifier c || c == '.'

/-- A block with the name of the owner of its members and the places where it starts and stops. -/
structure OwnerBlock where
  name : Text
  start : Int
  stop : Int
  deriving DecidableEq, Repr

namespace OwnerBlock

/-- Whether a place lies in the block; both its ends count. -/
def holds (b : OwnerBlock) (offset : Int) : Bool := b.start ≤ offset && offset ≤ b.stop

/-- The name of the first block of a list in which a place lies. -/
def ownerAt (offset : Int) (blocks : List OwnerBlock) : Option Text :=
  (blocks.find? (·.holds offset)).map (·.name)

/-! ## Markers -/

/-- The two ways to write a block. -/
inductive Form where
  /-- An object is assigned to the prototype. -/
  | assigned
  /-- The prototype is extended with an object. -/
  | extended
  deriving DecidableEq, Repr

namespace Form

/-- What stands between the indentation and the owner's path. -/
def opening : Form → Text
  | assigned => []
  | extended => "_.extend(".toList

/-- What stands behind the owner's path. -/
def bridge : Form → Text
  | assigned => " = \x7b".toList
  | extended => ", \x7b".toList

/-- The marker that closes the block, behind the indentation. -/
def closing : Form → Text
  | assigned => "\x7d;".toList
  | extended => "\x7d);".toList

end Form

/-- An opening marker: how far it is indented, the owner, and the length of it all. -/
structure Opener where
  indent : Nat
  name : Text
  length : Nat
  deriving DecidableEq, Repr

/-- The opening marker at the front of a text. -/
def opener? (st : Form) (s : Text) : Option Opener := do
  let indent := (s.takeWhile isIndent).length
  let r ← Text.after? st.opening (s.dropWhile isIndent)
  let path := r.takeWhile isPath
  let name ← Text.before? ".prototype".toList path
  let _ ← Text.after? st.bridge (r.dropWhile isPath)
  if name.isEmpty then none
  else some ⟨indent, name, indent + st.opening.length + path.length + st.bridge.length⟩

/-- Whether a closing marker that is indented by `indent` stands at the front of a text. -/
def closes (st : Form) (indent : Nat) (s : Text) : Bool :=
  (s.takeWhile isIndent).length == indent && Text.beginsWith st.closing (s.dropWhile isIndent)

/-! ## Blocks of a source -/

/-- The rests of a text that begin behind one of its line feeds, each with its place; `place` is
where the text itself begins. -/
def laterLines (place : Nat) : Text → List (Nat × Text)
  | [] => []
  | c :: r =>
    if c == '\n' then (place + 1, r) :: laterLines (place + 1) r else laterLines (place + 1) r

/-- The rests of a text that begin a line, each with its place. -/
def lineStarts (s : Text) : List (Nat × Text) := (0, s) :: laterLines 0 s

/-- The place behind the first closing marker that fits, among the lines from the opening one. -/
def stop? (st : Form) (indent : Nat) (later : List (Nat × Text)) : Option Nat :=
  (later.find? fun l => closes st indent l.2).map fun l => l.1 + indent + st.closing.length

/-- The blocks of one style among lines, in order. -/
def among (st : Form) : List (Nat × Text) → List OwnerBlock
  | [] => []
  | (n, s) :: later =>
    match opener? st s with
    | none => among st later
    | some o =>
      { name := o.name, start := n,
        stop := ((stop? st o.indent later).getD (n + o.length) : Nat) } :: among st later

/-- All blocks of a source, those that are assigned before those that extend. -/
def inSource (s : Text) : List OwnerBlock :=
  among .assigned (lineStarts s) ++ among .extended (lineStarts s)

end OwnerBlock

end Docblock
