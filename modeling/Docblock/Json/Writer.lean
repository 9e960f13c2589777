/-
# Docblock.Json.Writer — the written form of structured values.

Strings are written in printable ASCII alone: the quote and the backslash are escaped, five control
characters have short escapes, and everything else outside the range from the space to the tilde is
written by its UTF-16 units.  A layout says whether values are spread over lines.
-/
import Docblock.Json.Basic
import Docblock.Number.Shortest

namespace Docblock

namespace Json

/-- How a value is spread over lines. -/
inductive Layout where
  /-- All on one line. -/
  | oneLine
  /-- One item a line, each level of nesting indented by so many more spaces. -/
  | spread (width : Nat)
  deriving DecidableEq, Repr

namespace Layout

/-- The layout for an indentation width: none for zero, lines without indentation below it. -/
def ofWidth (width : Int) : Layout := if width = 0 then .oneLine else .spread width.toNat

/-- What stands in front of an item at a depth of nesting. -/
def lineBreak (depth : Nat) : Layout → Text
  | .oneLine => []
  | .spread w => '\n' :: Text.fill (w * depth) ' '

/-- What stands between two items at a depth of nesting. -/
def between (depth : Nat) : Layout → Text
  | .oneLine => [',', ' ']
  | .spread w => ',' :: '\n' :: Text.fill (w * depth) ' '

end Layout

/-- A hexadecimal digit. -/
def hexDigit (n : Nat) : Char := "0123456789abcdef".toList.getD n '0'

/-- The escape of one UTF-16 unit. -/
def unitEscape (u : Nat) : Text :=
  ['\\', 'u', hexDigit (u / 4096 % 16), hexDigit (u / 256 % 16), hexDigit (u / 16 % 16),
    hexDigit (u % 16)]

/-- How a character is written inside a string. -/
def escapeChar (c : Char) : Text :=
  if c == '\x22' then ['\\', '\x22']
  else if c == '\\' then ['\\', '\\']
  else if c == '\n' then ['\\', 'n']
  else if c == '\r' then ['\\', 'r']
  else if c == '\t' then ['\\', 't']
  else if c == '\x0c' then ['\\', 'f']
  else if c == '\x08' then ['\\', 'b']
  else
    let n := c.toNat
    if 0x20 ≤ n && n ≤ 0x7E then [c]
    else if n < 0x10000 then unitEscape n
    else unitEscape (0xD800 + (n - 0x10000) / 0x400) ++ unitEscape (0xDC00 + (n - 0x10000) % 0x400)

/-- A text between quotes. -/
def quote (s : Text) : Text := '\x22' :: s.flatMap escapeChar ++ ['\x22']

/-- The numbers that are not finite have names of their own. -/
def floatText : Binary64 → Text
  | .nan => "NaN".toList
  | .infinite s => (if s then "-Infinity" else "Infinity").toList
  | x => x.text

mutual

/-- The written form of a value at a depth of nesting. -/
def writeAt (l : Layout) (depth : Nat) : Json → Text
  | .null => "null".toList
  | .bool b => (if b then "true" else "false").toList
  | .int i => Numeral.ofInt i
  | .float x => floatText x
  | .string s => quote s
  | .array [] => ['[', ']']
  | .array (v :: vs) =>
    '[' :: l.lineBreak (depth + 1) ++ writeAt l (depth + 1) v ++ writeItems l (depth + 1) vs
      ++ l.lineBreak depth ++ [']']
  | .object [] => ['\x7b', '\x7d']
  | .object ((k, v) :: ms) =>
    '\x7b' :: l.lineBreak (depth + 1) ++ quote k ++ [':', ' '] ++ writeAt l (depth + 1) v
      ++ writeMembers l (depth + 1) ms ++ l.lineBreak depth ++ ['\x7d']

/-- The items after the first one. -/
def writeItems (l : Layout) (depth : Nat) : List Json → Text
  | [] => []
  | v :: vs => l.between depth ++ writeAt l depth v ++ writeItems l depth vs

/-- The members after the first one. -/
def writeMembers (l : Layout) (depth : Nat) : List (Text × Json) → Text
  | [] => []
  | (k, v) :: ms =>
    l.between depth ++ quote k ++ [':', ' '] ++ writeAt l depth v ++ writeMembers l depth ms

end

/-- The written form of a value. -/
def write (l : Layout) (v : Json) : Text := writeAt l 0 v

end Json

end Docblock
