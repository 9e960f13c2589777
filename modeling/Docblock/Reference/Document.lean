/-
# Docblock.Reference.Document — the reference of a library in one text.

A table of contents, with a link for each entry, and then a section for each entry under its
heading.  Without entries there is no text at all.
-/
import Docblock.Reference.Entry

namespace Docblock

namespace Entry

/-- The line of the table of contents for an entry. -/
def contentsLine (e : Entry) : Text :=
  "  - [".toList ++ e.signature ++ "](#".toList ++ e.anchor ++ [')', '\n']

/-- The section of an entry. -/
def sectionText (e : Entry) : Text :=
  "### ".toList ++ e.signature ++ ['\n', '\n'] ++ e.description ++ ['\n', '\n']

/-- The reference made of entries. -/
def document (es : List Entry) : Text :=
  if es.isEmpty then []
  else Text.trimEnd (es.flatMap contentsLine ++ '\n' :: es.flatMap sectionText) ++ ['\n']

end Entry

/-- The reference for comments. -/
def reference (cs : List Comment) : Text := Entry.document (Entry.ofComments cs)

end Docblock
