/-
# Docblock.Html.Escape — text inside HTML.

Two ways to write text so that no markup arises from it.  The strict one escapes every ampersand,
angle bracket and double quote.  The lenient one leaves an ampersand alone when word characters and
a semicolon follow it, so that entities that were written on purpose survive, and does not touch
quotes.
-/
import Docblock.Text.Basic
import Docblock.Text.Word

namespace Docblock.Html

/-- How the strict form writes a character. -/
def escapeChar (c : Char) : Text :=
  if c == '&' then "&amp;".toList
  else if c == '<' then "&lt;".toList
  else if c == '>' then "&gt;".toList
  else if c == '\x22' then "&quot;".toList
  else [c]

/-- Escape every ampersand, angle bracket and double quote. -/
def escape (s : Text) : Text := s.flatMap escapeChar

/-- Whether a text begins with what follows the ampersand of an entity: word characters and a
semicolon. -/
def entityBody (s : Text) : Bool :=
  !(s.takeWhile isWord).isEmpty && (s.dropWhile isWord).head? == some ';'

/-- Escape angle brackets, and ampersands that do not begin an entity. -/
def escapeLoose : Text → Text
  | [] => []
  | c :: r =>
    let here : Text :=
      if c == '&' && entityBody r then ['&']
      else if c == '\x22' then [c]
      else escapeChar c
    here ++ escapeLoose r

end Docblock.Html
