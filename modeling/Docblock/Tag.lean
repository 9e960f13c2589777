/-
# Docblock.Tag — annotations of a comment.

A tag is one annotation: a keyword behind an at sign, and what follows it.  The keyword decides how
the following words are shared out among the tag's fields.  Types stand in braces and may consist of
several words; a keyword without a meaning of its own keeps its words as they are.
-/
import Docblock.Text.Blank

namespace Docblock

/-- One annotation.  A field that has no meaning for the tag is unset, which is not the same as
empty. -/
structure Tag where
  type : Text
  types : Option (List Text) := none
  name : Option Text := none
  description : Option Text := none
  title : Option Text := none
  url : Option Text := none
  target : Option Text := none
  visibility : Option Text := none
  parent : Option Text := none
  otherClass : Option Text := none
  otherMemberName : Option Text := none
  thisMemberName : Option Text := none
  string : Option Text := none
  deriving DecidableEq, Repr, Inhabited

namespace Tag

/-! ## Types -/

/-- Whether a character separates two type names. -/
def isTypeSeparator (c : Char) : Bool := c == '|' || c == ',' || c == '/'

/-- A text without one opening brace in front and without one closing brace at the end. -/
def unbrace (s : Text) : Text :=
  let s := ((['\x7b'] : Text).isPrefixOf? s).getD s
  ((['\x7d'] : Text).isSuffixOf? s).getD s

/-- The type names in a type expression: its pieces between separators, trimmed, without the empty
ones. -/
def typeNames (s : Text) : List Text :=
  (((unbrace (Text.trim s)).splitOnP isTypeSeparator).map Text.trim).filter (!·.isEmpty)

/-- The words up to and including the first that ends with a closing brace, or all of them, and the
words behind. -/
def throughBrace : List Text → List Text × List Text
  | [] => ([], [])
  | w :: ws =>
    if Text.endsWith ['\x7d'] w then ([w], ws)
    else (w :: (throughBrace ws).1, (throughBrace ws).2)

/-- The words of the type expression in front of a list of words, and the words behind it.  Without
an opening brace it is a single word. -/
def typeWords : List Text → List Text × List Text
  | [] => ([], [])
  | w :: ws => if Text.beginsWith ['\x7b'] w then throughBrace (w :: ws) else ([w], ws)

/-- The type names in front of a list of words, and the words behind them. -/
def takeTypes (ws : List Text) : List Text × List Text :=
  (typeNames (Text.unwords (typeWords ws).1), (typeWords ws).2)

/-! ## Kinds of tag -/

/-- The keywords with a meaning of their own. -/
inductive Kind where
  | param
  | return
  | type
  | throws
  | see
  | api
  | memberOf
  | augments
  | borrows
  | example
  | other
  deriving DecidableEq, Repr

/-- The kind that a keyword names. -/
def Kind.ofKeyword (k : Text) : Kind :=
  if k = "param".toList then .param
  else if k = "return".toList then .return
  else if k = "type".toList then .type
  else if k = "throws".toList then .throws
  else if k = "see".toList then .see
  else if k = "api".toList then .api
  else if k = "memberOf".toList then .memberOf
  else if k = "augments".toList then .augments
  else if k = "borrows".toList then .borrows
  else if k = "example".toList then .example
  else .other

/-- The words of a description behind a name; a dash between the two is left out. -/
def dropDash : List Text → List Text
  | [] => []
  | w :: ws => if w = ['-'] then ws else w :: ws

/-- The first word, or the empty text when there is none. -/
def firstWord (ws : List Text) : Text := ws.headD []

/-- Two names around the word `as`; without that word the second name is empty. -/
def borrowed (ws : List Text) : Text × Text :=
  let (other, this) := Text.cut " as ".toList (Text.unwords ws)
  (other, this.getD [])

/-- The text of an example, from behind its keyword line to its last character that is not blank. -/
def exampleText (s : Text) : Text :=
  let body :=
    match Text.after? "@example".toList s with
    | none => s
    | some r =>
      match r.dropWhile isIndent with
      | '\n' :: r' => r'
      | r' => r'
  Text.trimEnd body

/-- Whether a text names a web address. -/
def mentionsAddress (s : Text) : Bool := Text.has "http".toList s

/-- The tag of a kind with the given keyword, from the words behind the keyword and the whole
text. -/
def build (k : Kind) (keyword : Text) (ws : List Text) (s : Text) : Tag :=
  match k with
  | .param =>
    let (types, rest) := takeTypes ws
    { type := keyword, types := some types, name := some (firstWord rest),
      description := some (Text.unwords (dropDash rest.tail)) }
  | .return | .throws =>
    let (types, rest) := takeTypes ws
    { type := keyword, types := some types, description := some (Text.unwords rest) }
  | .type => { type := keyword, types := some (takeTypes ws).1 }
  | .see =>
    if mentionsAddress s then
      match ws with
      | w :: v :: vs =>
        { type := keyword, title := some w, url := some (Text.unwords (v :: vs)) }
      | _ => { type := keyword, title := some [], url := some (Text.unwords ws) }
    else { type := keyword, target := some (Text.unwords ws) }
  | .api => { type := keyword, visibility := some (firstWord ws) }
  | .memberOf => { type := keyword, parent := some (firstWord ws) }
  | .augments => { type := keyword, otherClass := some (firstWord ws) }
  | .borrows =>
    let (other, this) := borrowed ws
    { type := keyword, otherMemberName := some other, thisMemberName := some this }
  | .example => { type := keyword, string := some (exampleText s) }
  | .other => { type := keyword, string := some (Text.unwords ws) }

/-- Read a tag from its text.  The keyword is the first word without its first at sign. -/
def ofText (s : Text) : Tag :=
  let ws := Text.words s
  let keyword := (firstWord ws).erase '@'
  build (Kind.ofKeyword keyword) keyword ws.tail s

/-- Whether a tag declares what it belongs to private. -/
def isPrivateMark (t : Tag) : Bool :=
  t.type = "api".toList && t.visibility = some "private".toList

end Tag

end Docblock
