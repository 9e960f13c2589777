/-
# Docblock.Yaml.Sextet — octets in groups of six bits.

Each character of an alphabet of sixty-four stands for six bits, so four characters make three
octets.  Other characters are passed over, except for the signs that fill up the last group.
-/
import Docblock.Text.Utf8

namespace Docblock.Yaml

/-- The six bits that a character stands for. -/
def sextet? (c : Char) : Option Nat :=
  if 'A' ≤ c && c ≤ 'Z' then some (c.toNat - 0x41)
  else if 'a' ≤ c && c ≤ 'z' then some (c.toNat - 0x61 + 26)
  else if c.isDigit then some (c.toNat - 0x30 + 52)
  else if c == '+' then some 62
  else if c == '/' then some 63
  else none

/-- The octets of a text from some place on: `place` characters of the current group have been read,
`left` are the bits of them that are still to be used, and `fills` signs have filled it up. -/
def octetsFrom (place left fills : Nat) : Text → Option Octets
  | [] => if place = 0 then some [] else none
  | c :: r =>
    if c == '=' then
      if place < 2 then octetsFrom place left fills r
      else if 4 ≤ place + fills + 1 then some []
      else octetsFrom place left (fills + 1) r
    else
      match sextet? c, place with
      | none, _ => octetsFrom place left fills r
      | some x, 0 => octetsFrom 1 x 0 r
      | some x, 1 => (octetsFrom 2 (x % 16) 0 r).map (UInt8.ofNat (left * 4 + x / 16) :: ·)
      | some x, 2 => (octetsFrom 3 (x % 4) 0 r).map (UInt8.ofNat (left * 16 + x / 4) :: ·)
      | some x, _ => (octetsFrom 0 0 0 r).map (UInt8.ofNat (left * 64 + x) :: ·)

/-- The octets that a text stands for. -/
def sextetOctets? (s : Text) : Option Octets :=
  if s.all (·.toNat < 0x80) then octetsFrom 0 0 0 s else none

end Docblock.Yaml
