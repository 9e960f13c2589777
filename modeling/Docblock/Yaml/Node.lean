/-
# Docblock.Yaml.Node — documents as trees.

A node is a scalar, a sequence or a mapping, each with the kind of value it stands for.  A node can
be named and used again; a use inside the named node itself cannot be replaced by a copy for ever,
so it is replaced once and then left as a mark.
-/
import Docblock.Yaml.Kind

namespace Docblock.Yaml

/-- A node of a document. -/
inductive Node where
  | scalar (kind : Kind) (text : Text)
  | sequence (kind : Kind) (items : List Node)
  | mapping (kind : Kind) (pairs : List (Node × Node))
  /-- A use of the named node that it is inside of. -/
  | enclosing (name : Text)
  deriving Repr, Inhabited

namespace Node

/-- The node that stands where nothing is written. -/
def empty : Node := .scalar .null []

mutual

/-- The node with `copy` in place of every use of `name`. -/
def fill (name : Text) (copy : Node) : Node → Node
  | scalar kind s => .scalar kind s
  | sequence kind ns => .sequence kind (fillAll name copy ns)
  | mapping kind ps => .mapping kind (fillPairs name copy ps)
  | enclosing n => if n = name then copy else .enclosing n

/-- The nodes with `copy` in place of every use of `name`. -/
def fillAll (name : Text) (copy : Node) : List Node → List Node
  | [] => []
  | n :: ns => fill name copy n :: fillAll name copy ns

/-- The pairs with `copy` in place of every use of `name`. -/
def fillPairs (name : Text) (copy : Node) : List (Node × Node) → List (Node × Node)
  | [] => []
  | (k, v) :: ps => (fill name copy k, fill name copy v) :: fillPairs name copy ps

end

/-- A named node with the uses of its name inside it replaced once. -/
def unroll (name : Text) (n : Node) : Node := n.fill name n

end Node

end Docblock.Yaml
