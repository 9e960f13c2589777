/-
# Docblock.Number.Numeral — whole numbers in writing.

A whole number is written in decimal digits, with a minus sign when it is negative.  Reading is more
generous: the digits of any script count, a single low line may stand between two digits, one sign
may stand in front, and blanks may surround the whole.  Numerals beyond a fixed number of digits are
neither read nor written.
-/
import Docblock.Text.Blank

namespace Docblock

/-- The zeros of all scripts that have decimal digits; the other nine follow each of them. -/
def scriptZeros : List Nat := [
    0x30, 0x660, 0x6F0, 0x7C0, 0x966, 0x9E6, 0xA66, 0xAE6, 0xB66, 0xBE6, 0xC66, 0xCE6, 0xD66,
    0xDE6, 0xE50, 0xED0, 0xF20, 0x1040, 0x1090, 0x17E0, 0x1810, 0x1946, 0x19D0, 0x1A80,
    0x1A90, 0x1B50, 0x1BB0, 0x1C40, 0x1C50, 0xA620, 0xA8D0, 0xA900, 0xA9D0, 0xA9F0, 0xAA50,
    0xABF0, 0xFF10, 0x104A0, 0x10D30, 0x11066, 0x110F0, 0x11136, 0x111D0, 0x112F0, 0x11450,
    0x114D0, 0x11650, 0x116C0, 0x11730, 0x118E0, 0x11950, 0x11C50, 0x11D50, 0x11DA0, 0x16A60,
    0x16AC0, 0x16B50, 0x1D7CE, 0x1D7D8, 0x1D7E2, 0x1D7EC, 0x1D7F6, 0x1E140, 0x1E2F0, 0x1E950,
    0x1FBF0]

/-- The value of a decimal digit of any script. -/
def digitValue? (c : Char) : Option Nat :=
  if c.isDigit then some (c.toNat - 0x30)
  else if c.toNat < 0x80 then none
  else (scriptZeros.find? fun z => z ≤ c.toNat && c.toNat < z + 10).map (c.toNat - ·)

namespace Numeral

/-- The value of a hexadecimal digit. -/
def hexValue? (c : Char) : Option Nat :=
  if c.isDigit then some (c.toNat - 0x30)
  else if 'a' ≤ c && c ≤ 'f' then some (c.toNat - 0x61 + 10)
  else if 'A' ≤ c && c ≤ 'F' then some (c.toNat - 0x41 + 10)
  else none

/-- The largest number of digits that a numeral may have. -/
def maxDigits : Nat := 4300

/-- The number that a list of digit values stands for in the given base. -/
def ofDigits (base : Nat) (ds : List Nat) : Nat := ds.foldl (fun n d => n * base + d) 0

/-- A number in decimal digits. -/
def ofNat (n : Nat) : Text := Nat.toDigits 10 n

/-- A whole number in decimal digits, after a minus sign when it is negative. -/
def ofInt (i : Int) : Text := if i < 0 then '-' :: ofNat i.natAbs else ofNat i.natAbs

/-- Whether a whole number is short enough to be written out. -/
def writable (i : Int) : Bool := (ofNat i.natAbs).length ≤ maxDigits

/-- Whether a character may surround a numeral: any blank but the information separators. -/
def isMargin (c : Char) : Bool := isBlank c && !(0x1C ≤ c.toNat && c.toNat ≤ 0x1F)

/-- The sign in front of a text, `true` for minus, and the text after it. -/
def sign : Text → Bool × Text
  | '-' :: r => (true, r)
  | '+' :: r => (false, r)
  | r => (false, r)

/-- The digit values of a run of digits in which single low lines may stand between digits. -/
def digits? (digit : Char → Option Nat) (s : Text) : Option (List Nat) :=
  let groups := s.splitOn '_'
  if groups.any (·.isEmpty) then none else groups.flatten.mapM digit

/-- Read a whole number from the whole of a text. -/
def toInt? (s : Text) : Option Int :=
  let (negative, body) := sign (Text.dropAround isMargin s)
  match digits? digitValue? body with
  | none => none
  | some ds =>
    if ds.length ≤ maxDigits then
      let n : Int := ofDigits 10 ds
      some (if negative then -n else n)
    else none

/-- The value of a digit in the given base, at most sixteen. -/
def digitIn? (base : Nat) (c : Char) : Option Nat :=
  ((digitValue? c).or (hexValue? c)).filter (· < base)

/-- Read a whole number in the given base from the whole of a text.  A zero and the letter of the
base may stand in front of the digits. -/
def toIntIn? (base : Nat) (letter : Char) (s : Text) : Option Int :=
  let (negative, body) := sign (Text.dropAround isMargin s)
  let body : Text :=
    match body with
    | '0' :: c :: r => if c.toLower == letter then r else body
    | _ => body
  (digits? (digitIn? base) body).map fun ds =>
    let n : Int := ofDigits base ds
    if negative then -n else n

end Numeral

end Docblock
