/-
# Docblock.Markdown.Inline — what a line of text is made of.

The inline parts of a paragraph or heading, in order.  Emphasis and links are given by the places
where they begin and end, so a list of parts is already in the order in which it is written out.
-/
import Docblock.Text.Basic

namespace Docblock.Markdown

/-- The ways to set off a stretch of text. -/
inductive Span where
  | emphasis
  | strong
  | strike
  deriving DecidableEq, Repr

/-- A part of a line. -/
inductive Inline where
  | text (s : Text)
  /-- A character that was escaped or referred to. -/
  | special (s : Text)
  | code (s : Text)
  | html (s : Text)
  | softBreak
  | hardBreak
  | opens (k : Span)
  | closes (k : Span)
  | linkOpens (address title : Text)
  | linkCloses
  | image (address title alternative : Text)
  deriving DecidableEq, Repr

namespace Inline

/-- What a part contributes to the alternative text of an image: plain text and line breaks. -/
def alternative : Inline → Text
  | .text s => s
  | .html s => s
  | .image _ _ s => s
  | .softBreak | .hardBreak => ['\n']
  | _ => []

end Inline

end Docblock.Markdown
