/-
# Docblock.FileTree.Basic — files, directories and links.

All files there are form one tree.  A directory holds named entries; a link stands for another path.
Places in the tree are lists of names from its root, and nothing here follows a link.
-/
import Docblock.FileTree.Path
import Docblock.Text.Utf8

namespace Docblock

/-- A file, a link, or a directory with its entries. -/
inductive FileTree where
  | file (content : Octets)
  | link (target : Path)
  | directory (entries : List (Text × FileTree))
  deriving Repr, Inhabited

namespace FileTree

/-- The entries of a directory. -/
def entries : FileTree → List (Text × FileTree)
  | directory es => es
  | _ => []

/-- Whether it is a directory. -/
def isDirectory : FileTree → Bool
  | directory _ => true
  | _ => false

/-- The entry of the given name. -/
def entry? (name : Text) (t : FileTree) : Option FileTree := t.entries.lookup name

/-- What is at a place. -/
def at? (t : FileTree) : List Text → Option FileTree
  | [] => some t
  | name :: names =>
    match t.entry? name with
    | some u => u.at? names
    | none => none

/-- The entries with `u` under the given name, in the place of the entry that had it. -/
def setEntry (name : Text) (u : FileTree) : List (Text × FileTree) → List (Text × FileTree)
  | [] => [(name, u)]
  | (n, t) :: es => if n = name then (name, u) :: es else (n, t) :: setEntry name u es

/-- The tree with `u` at a place.  Directories on the way there are made. -/
def put (u : FileTree) : List Text → FileTree → FileTree
  | [], _ => u
  | name :: names, t =>
    directory (setEntry name (put u names ((t.entry? name).getD (directory []))) t.entries)

end FileTree

end Docblock
