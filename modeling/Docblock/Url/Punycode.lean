/-
# Docblock.Url.Punycode — names of hosts in ASCII.

A label of a host's name that is not plain ASCII is written by its ASCII characters, followed by the
places and numbers of all others: these are inserted in increasing order, and each insertion is
coded as a number of steps since the one before, in digits whose weights adapt to earlier numbers.
-/
import Docblock.Text.Basic

namespace Docblock

namespace Punycode

/-- The number of digits. -/
def base : Nat := 36

/-- The least threshold of a digit. -/
def tMin : Nat := 1

/-- The greatest threshold of a digit. -/
def tMax : Nat := 26

/-- The threshold of the digit at a place, counted in steps of the base from one base on. -/
def threshold (k bias : Nat) : Nat := if k ≤ bias + tMin then tMin else min (k - bias) tMax

/-- Divide a step count until it is small; give the number of divisions and what is left. -/
def reduce : Nat → Nat → Nat → Nat × Nat
  | 0, delta, k => (delta, k)
  | fuel + 1, delta, k =>
    if (base - tMin) * tMax / 2 < delta then reduce fuel (delta / (base - tMin)) (k + base)
    else (delta, k)

/-- The bias for the next number. -/
def adapt (delta points : Nat) (isFirst : Bool) : Nat :=
  let delta := if isFirst then delta / 700 else delta / 2
  let (delta, k) := reduce delta (delta + delta / points) 0
  k + (base - tMin + 1) * delta / (delta + 38)

/-- A digit. -/
def digit (d : Nat) : Char := if d < 26 then Char.ofNat (0x61 + d) else Char.ofNat (0x30 + d - 26)

/-- The value of a digit. -/
def value? (c : Char) : Option Nat :=
  if c.isLower then some (c.toNat - 0x61)
  else if c.isUpper then some (c.toNat - 0x41)
  else if c.isDigit then some (c.toNat - 0x30 + 26)
  else none

/-- The digits of a number under a bias. -/
def digits (bias : Nat) : Nat → Nat → Nat → Text
  | 0, _, _ => []
  | fuel + 1, q, k =>
    let t := threshold k bias
    if q < t then [digit q]
    else digit (t + (q - t) % (base - t)) :: digits bias fuel ((q - t) / (base - t)) (k + base)

/-- What an encoder keeps between insertions. -/
structure Coder where
  delta : Nat
  bias : Nat
  handled : Nat
  isFirst : Bool
  out : Text

/-- Pass over the text once, inserting all characters with number `n`. -/
def insertAll (n : Nat) (s : Text) (st : Coder) : Coder :=
  s.foldl
    (fun st c =>
      if c.toNat < n then { st with delta := st.delta + 1 }
      else if c.toNat = n then
        { delta := 0
          bias := adapt st.delta (st.handled + 1) st.isFirst
          handled := st.handled + 1
          isFirst := false
          out := st.out ++ digits st.bias (st.delta + 2) st.delta base }
      else st)
    st

/-- Insert the characters with the given numbers, in increasing order. -/
def insertFrom (s : Text) : Nat → List Nat → Coder → Coder
  | _, [], st => st
  | n, m :: ms, st =>
    let st := insertAll m s { st with delta := st.delta + (m - n) * (st.handled + 1) }
    insertFrom s (m + 1) ms { st with delta := st.delta + 1 }

/-- The ASCII form of a label. -/
def encode (s : Text) : Text :=
  let plain := s.filter (·.toNat < 0x80)
  let others := ((s.filter (0x80 ≤ ·.toNat)).map Char.toNat).mergeSort.eraseReps
  let st := insertFrom s 0x80 others
    { delta := 0, bias := 72, handled := plain.length, isFirst := true, out := [] }
  if plain.isEmpty then st.out else plain ++ '-' :: st.out

/-- The number at the front of a text under a bias, and the rest. -/
def number? (bias : Nat) : Nat → Nat → Nat → Text → Option (Nat × Text)
  | _, _, _, [] => none
  | k, weight, sum, c :: r => do
    let d ← value? c
    let t := threshold k bias
    let sum := sum + d * weight
    if d < t then some (sum, r) else number? bias (k + base) (weight * (base - t)) sum r

/-- Insert characters into a text as the rest says. -/
def extend? : Nat → Text → Nat → Nat → Nat → Bool → Text → Option Text
  | 0, out, _, _, _, _, _ => some out
  | fuel + 1, out, n, i, bias, isFirst, s =>
    if s.isEmpty then some out
    else do
      let (delta, r) ← number? bias base 1 0 s
      let size := out.length + 1
      let i := i + delta
      let n := n + i / size
      if 0x110000 ≤ n then none
      else
        let i := i % size
        extend? fuel (out.insertIdx i (Char.ofNat n)) n (i + 1) (adapt delta size isFirst) false r

/-- The label that an ASCII form stands for. -/
def decode? (s : Text) : Option Text :=
  let tail := (s.reverse.takeWhile (· != '-')).reverse
  let plain := s.take (s.length - tail.length - 1)
  if plain.any (0x80 ≤ ·.toNat) then none else extend? (s.length + 1) plain 0x80 0 72 true tail

end Punycode

end Docblock
