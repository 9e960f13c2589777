/-
# Docblock.Text.Blank — blank characters, trimming, words.

The blanks are the white space of Unicode together with the four information separators U+001C to
U+001F.  Trimming and cutting into words both go by this class; the zero-width space U+200B and the
byte order mark are not in it.
-/
import Docblock.Text.Basic

namespace Docblock

/-- Whether a character is blank. -/
def isBlank (c : Char) : Bool :=
  let n := c.toNat
  (0x09 ≤ n && n ≤ 0x0D) || (0x1C ≤ n && n ≤ 0x20) || n == 0x85 || n == 0xA0 || n == 0x1680
    || (0x2000 ≤ n && n ≤ 0x200A) || n == 0x2028 || n == 0x2029 || n == 0x202F || n == 0x205F
    || n == 0x3000

/-- Whether a character is a space or a tab, the blanks that may stand inside a line of code. -/
def isIndent (c : Char) : Bool := c == ' ' || c == '\t'

namespace Text

/-- The text without blanks in front. -/
def trimStart (s : Text) : Text := s.dropWhile isBlank

/-- The text without blanks at the end. -/
def trimEnd (s : Text) : Text := dropEndWhile isBlank s

/-- The text without blanks at either end. -/
def trim (s : Text) : Text := trimEnd (trimStart s)

/-- Whether nothing but blanks is in the text. -/
def blank (s : Text) : Bool := s.all isBlank

/-- The words of a text: its longest runs of characters that are not blank, in order. -/
def words (s : Text) : List Text := (s.splitOnP isBlank).filter (!·.isEmpty)

/-- Words with one space between neighbours. -/
def unwords (ws : List Text) : Text := join [' '] ws

end Text

end Docblock
