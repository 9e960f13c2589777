/-
# Docblock.Text.Utf8 — texts as octets.

Reading stops at the first place where the octets are not well formed and says which octets are at
fault and why: none of them can begin a character, one of them cannot continue it, or the data ends
within it.  Overlong forms, surrogates and numbers beyond the last code point are refused by the
range of the second octet.
-/
import Docblock.Text.Basic

namespace Docblock

/-- A string of octets. -/
abbrev Octets := List UInt8

namespace Utf8

/-- Why octets are not well formed. -/
inductive Reason where
  | invalidStart
  | invalidContinuation
  | unexpectedEnd
  deriving DecidableEq, Repr

/-- The faulty octets: the place of the first, how many they are, the first of them, and the
reason. -/
structure Fault where
  position : Nat
  count : Nat
  octet : UInt8
  reason : Reason
  deriving DecidableEq, Repr

/-- How many octets follow the first one of a character, the least and greatest second octet, and
the bits that the first octet contributes. -/
structure Lead where
  more : Nat
  low : UInt8
  high : UInt8
  bits : Nat
  deriving DecidableEq, Repr

/-- What the first octet of a character says about it. -/
def lead? (b : UInt8) : Option Lead :=
  let n := b.toNat
  if n < 0x80 then some ⟨0, 0, 0, n⟩
  else if n < 0xC2 then none
  else if n < 0xE0 then some ⟨1, 0x80, 0xBF, n - 0xC0⟩
  else if n < 0xF0 then
    some ⟨2, if n = 0xE0 then 0xA0 else 0x80, if n = 0xED then 0x9F else 0xBF, n - 0xE0⟩
  else if n < 0xF5 then
    some ⟨3, if n = 0xF0 then 0x90 else 0x80, if n = 0xF4 then 0x8F else 0xBF, n - 0xF0⟩
  else none

/-- Where the reader stands: between characters, or within one that began at `start` with the octet
`first`, of which `seen` octets were read and `more` are missing, the next between `low` and
`high`. -/
inductive State where
  | between
  | within (start : Nat) (first : UInt8) (seen more : Nat) (low high : UInt8) (bits : Nat)
  deriving DecidableEq, Repr

/-- Read octets from a state on; `place` is the place of the next one. -/
def decodeFrom (place : Nat) : State → Octets → Except Fault Text
  | .between, [] => .ok []
  | .within start first seen _ _ _ _, [] => .error ⟨start, seen, first, .unexpectedEnd⟩
  | .between, b :: bs =>
    match lead? b with
    | none => .error ⟨place, 1, b, .invalidStart⟩
    | some ⟨0, _, _, n⟩ => (Char.ofNat n :: ·) <$> decodeFrom (place + 1) .between bs
    | some ⟨more + 1, low, high, n⟩ =>
      decodeFrom (place + 1) (.within place b 1 (more + 1) low high n) bs
  | .within start first seen more low high n, b :: bs =>
    if low ≤ b && b ≤ high then
      let n := n * 64 + (b.toNat - 0x80)
      if more ≤ 1 then (Char.ofNat n :: ·) <$> decodeFrom (place + 1) .between bs
      else decodeFrom (place + 1) (.within start first (seen + 1) (more - 1) 0x80 0xBF n) bs
    else .error ⟨start, seen, first, .invalidContinuation⟩

/-- The text that octets stand for. -/
def decode (bs : Octets) : Except Fault Text := decodeFrom 0 .between bs

/-- The octets of a character. -/
def encodeChar (c : Char) : Octets :=
  let n := c.toNat
  let tail (k : Nat) : UInt8 := (0x80 + n / Nat.pow 64 k % 64).toUInt8
  if n < 0x80 then [n.toUInt8]
  else if n < 0x800 then [(0xC0 + n / 64).toUInt8, tail 0]
  else if n < 0x10000 then [(0xE0 + n / 4096).toUInt8, tail 1, tail 0]
  else [(0xF0 + n / 262144).toUInt8, tail 2, tail 1, tail 0]

/-- The octets of a text. -/
def encode (s : Text) : Octets := s.flatMap encodeChar

end Utf8

end Docblock
