/-
# Docblock.Yaml.Token — the tokens of a document.

Besides the marks that are written out, there are tokens for what the layout says: where a block
sequence or mapping begins, where it ends, and where a key begins.
-/
import Docblock.Text.Basic
import Docblock.Yaml.Fault

namespace Docblock.Yaml

/-- An instruction in front of a document. -/
inductive Directive where
  /-- The version of the language, by its main number. -/
  | version (main : Nat)
  /-- A short form for the beginnings of tags. -/
  | shortTag (handle uri : Text)
  | reserved
  deriving DecidableEq, Repr, Inhabited

/-- A token. -/
inductive Token where
  | directive (d : Directive)
  | documentStart
  | documentEnd
  | blockSequence
  | blockMapping
  | blockEnd
  | flowSequence
  | flowSequenceEnd
  | flowMapping
  | flowMappingEnd
  | blockEntry
  | flowEntry
  | key
  | value
  | alias (name : Text)
  | anchor (name : Text)
  /-- A tag; without a handle it is complete. -/
  | tag (handle : Option Text) (suffix : Text)
  /-- A scalar; a plain one stands without quotes. -/
  | scalar (text : Text) (plain : Bool)
  | finish
  /-- The place from which on no more tokens can be read. -/
  | unreadable (f : Fault)
  deriving DecidableEq, Repr, Inhabited

end Docblock.Yaml
