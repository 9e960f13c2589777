/-
# Docblock.Reference.Entry — the documented members of a library.

A comment is listed when it stands before a declaration, is neither private nor set apart, is not
the heading of a list of dependencies, and does not document what a module exports as a whole.  Each
entry shows the signature of what is declared, with the names and types of its parameters.
-/
import Docblock.Comment
import Docblock.Html.Escape
import Docblock.Reference.Anchor

namespace Docblock

/-- An entry: a signature, the anchor of its heading, and the indented description. -/
structure Entry where
  signature : Text
  anchor : Text
  description : Text
  deriving DecidableEq, Repr

namespace Entry

/-- What is declared by a comment that is listed. -/
def documented? (c : Comment) : Option (Comment × Declaration) :=
  match c.declaration with
  | none => none
  | some d =>
    if c.isPrivate || c.ignored || Text.has "Module dependencies".toList c.description.full
        || Text.beginsWith "module.exports".toList d.string then none
    else some (c, d)

/-- A parameter with its types behind a colon.  A typed parameter whose name is unset is called
`None`. -/
def parameter (t : Tag) : Text :=
  let types := Text.join ['|'] (t.types.getD [])
  if types.isEmpty then t.name.getD []
  else t.name.getD "None".toList ++ ':' :: types

/-- All parameters of a comment. -/
def parameters (c : Comment) : Text :=
  Text.join [',', ' '] ((c.tags.filter fun t => t.type = "param".toList).map parameter)

/-- A name with its parameters in brackets. -/
def call (name : Text) (c : Comment) : Text := name ++ '(' :: parameters c ++ [')']

/-- The signature of a documented declaration. -/
def signatureOf (c : Comment) (d : Declaration) : Text :=
  match d.kind with
  | .function => call d.name c
  | .method => call (Declaration.memberText (d.scope.bind (·.owner)) d.name) c
  | _ => d.string

/-- Every line that is not empty, two spaces further in. -/
def indent (s : Text) : Text :=
  Text.unlines ((Text.lines s).map fun l => if l.isEmpty then l else ' ' :: ' ' :: l)

/-- The entries for comments, in order. -/
def ofComments (cs : List Comment) : List Entry :=
  let listed := cs.filterMap documented?
  let signatures := listed.map fun (c, d) => signatureOf c d
  (listed.zip (signatures.zip (Anchor.assign signatures))).map fun ((c, _), (s, a)) =>
    { signature := Html.escapeLoose s
      anchor := a
      description := indent (Text.trim c.description.full) }

end Entry

end Docblock
