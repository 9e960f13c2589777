/-
# Docblock.Comment — documentation comments and the text inside them.

The body of a comment has a gutter: stars in front of its lines, with blanks before them and one
space behind.  Without the gutter it is a description followed by tags, each tag beginning with an
at sign at the front of a line.  The first paragraph of the description is its summary.
-/
import Docblock.Declaration
import Docblock.Tag

namespace Docblock

/-- A description, its first paragraph, and the rest of it. -/
structure Description where
  full : Text := []
  summary : Text := []
  body : Text := []
  deriving DecidableEq, Repr, Inhabited

/-- A documentation comment, and the code behind it. -/
structure Comment where
  tags : List Tag := []
  description : Description := {}
  isPrivate : Bool := false
  ignored : Bool := false
  code : Option Text := none
  declaration : Option Declaration := none
  deriving DecidableEq, Repr, Inhabited

/-- What becomes of the texts of a description: they stay plain, or a renderer is applied. -/
structure Style where
  plain : Bool := false
  renderer : Text → Text

namespace Style

/-- No text is changed. -/
def untouched : Style := { plain := true, renderer := id }

/-- The text that a style makes of a text. -/
def apply (st : Style) (s : Text) : Text := if st.plain then s else st.renderer s

end Style

namespace Description

/-- A description with its first paragraph and the rest; an empty line ends the paragraph. -/
def ofText (s : Text) : Description :=
  let (summary, body) := Text.cut ['\n', '\n'] s
  { full := s, summary := summary, body := body.getD [] }

/-- Apply a function to each text of a description. -/
def map (f : Text → Text) (d : Description) : Description :=
  { full := f d.full, summary := f d.summary, body := f d.body }

end Description

namespace Comment

/-! ## The gutter -/

/-- Where the reader of a gutter stands in a line. -/
inductive GutterState where
  /-- At the front, behind blanks that are still held back, the last one first. -/
  | front (held : Text)
  /-- Right behind a star of the gutter. -/
  | star
  /-- In the text of the line. -/
  | inside
  deriving DecidableEq, Repr

/-- The state behind a character of the text of a line. -/
def GutterState.behind (c : Char) : GutterState := if c == '\n' then .front [] else .inside

/-- Remove the gutter from a text, reading it from left to right. -/
def withoutGutterFrom : GutterState → Text → Text
  | .front held, [] => held.reverse
  | _, [] => []
  | .front held, c :: r =>
    if isIndent c then withoutGutterFrom (.front (c :: held)) r
    else if c == '*' then withoutGutterFrom .star r
    else held.reverse ++ c :: withoutGutterFrom (.behind c) r
  | .star, c :: r =>
    if c == ' ' then withoutGutterFrom .inside r else c :: withoutGutterFrom (.behind c) r
  | .inside, c :: r => c :: withoutGutterFrom (.behind c) r

/-- Remove the gutter from the body of a comment. -/
def withoutGutter (s : Text) : Text := withoutGutterFrom (.front []) s

/-! ## Description and tags -/

/-- The description and the texts of the tags in a trimmed text. -/
def sections (s : Text) : Text × List Text :=
  let s := if Text.beginsWith ['@'] s then '\n' :: s else s
  let (full, tags) := Text.cut ['\n', '@'] s
  (full, match tags with
    | none => []
    | some r => (Text.pieces ['\n', '@'] r).map ('@' :: ·))

/-- The comment in a text without gutter. -/
def ofText (st : Style) (s : Text) : Comment :=
  let (full, tagTexts) := sections (Text.trim s)
  let tags := tagTexts.map Tag.ofText
  { tags := tags
    description := (Description.ofText full).map st.apply
    isPrivate := tags.any Tag.isPrivateMark }

end Comment

end Docblock
