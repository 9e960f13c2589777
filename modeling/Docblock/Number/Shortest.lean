/-
# Docblock.Number.Shortest — the shortest decimal text of a binary number.

A finite number is written with the fewest decimal digits that read back as the same number, and
among those with the digits nearest to its value.  For each number of digits the two decimals around
the value are tried; the first number of digits for which one of them rounds back is taken.
Magnitudes from 0.0001 up to but excluding 10^16 are written positionally with a digit after the
point, all others with an exponent of at least two digits.
-/
import Docblock.Number.Binary64
import Docblock.Number.Numeral

namespace Docblock

namespace Binary64

/-- A positive decimal: its digits without leading or trailing zeros, and the place of the point
counted from the first digit. -/
structure Decimal where
  digits : Text
  point : Int

/-- The interval of values that round to a number, as integers over the denominator `4 · den` where
`num / den` is the number itself, together with whether its ends belong to it. -/
structure Neighbourhood where
  low : Nat
  high : Nat
  closed : Bool

/-- What rounds to `m · 2 ^ e` when that is `num / den`.  Below a power of two the gap to the next
smaller number is half as wide. -/
def neighbourhood (m : Nat) (e : Int) : Neighbourhood :=
  let num := (fraction m e).1
  let unit := if 0 ≤ e then Nat.pow 2 e.toNat else 1
  let below := if m = Nat.pow 2 52 && minExponent < e then unit else 2 * unit
  { low := 4 * num - below, high := 4 * num + 2 * unit, closed := m % 2 == 0 }

/-- Compare `a / b` with `c / d`. -/
def atMost (strict : Bool) (a b c d : Nat) : Bool :=
  if strict then a * d < c * b else a * d ≤ c * b

/-- The power `10 ^ u` as a fraction. -/
def tenPower (u : Int) : Nat × Nat :=
  if 0 ≤ u then (Nat.pow 10 u.toNat, 1) else (1, Nat.pow 10 (-u).toNat)

/-- The multiple of `10 ^ u` nearest to the number among those next to it that round back to it. -/
def onGrid? (m : Nat) (e : Int) (u : Int) : Option Nat :=
  let (num, den) := fraction m e
  let around := neighbourhood m e
  let (p, q) := tenPower u
  let f := num * q / (den * p)
  let good (k : Nat) : Bool :=
    atMost (!around.closed) around.low (4 * den) (k * p) q
      && atMost (!around.closed) (k * p) q around.high (4 * den)
  let rest := num * q - f * (den * p)
  let near := 2 * rest < den * p || (2 * rest = den * p && f % 2 = 0)
  if near then
    if good f then some f else if good (f + 1) then some (f + 1) else none
  else
    if good (f + 1) then some (f + 1) else if good f then some f else none

/-- The greatest `k` with `10 ^ k ≤ num / den`, looked for around a first guess. -/
def decimalLog (num den : Nat) : Int :=
  let guess : Int := ((Nat.toDigits 10 num).length : Int) - (Nat.toDigits 10 den).length
  let (p, q) := tenPower guess
  if p * den ≤ num * q then guess else guess - 1

/-- The shortest decimal of a positive number, trying `n`, `n + 1`, … digits, `tries` times. -/
def shortestFrom (m : Nat) (e : Int) (k : Int) (n : Nat) : Nat → Decimal
  | 0 => ⟨[], 0⟩
  | tries + 1 =>
    match onGrid? m e (k + 1 - n) with
    | some d =>
      let ds := Numeral.ofNat d
      ⟨Text.dropEndWhile (· == '0') ds, k + 1 - n + ds.length⟩
    | none => shortestFrom m e k (n + 1) tries

/-- The shortest decimal that rounds to the positive number `m · 2 ^ e`.  Seventeen digits always
suffice. -/
def shortest (m : Nat) (e : Int) : Decimal :=
  let (num, den) := fraction m e
  shortestFrom m e (decimalLog num den) 1 17

/-- A positional decimal, with at least one digit on either side of the point. -/
def positional (d : Decimal) : Text :=
  if d.point ≤ 0 then "0.".toList ++ Text.fill (-d.point).toNat '0' ++ d.digits
  else
    let n := d.point.toNat
    let whole := d.digits.take n
    let part := d.digits.drop n
    whole ++ Text.fill (n - whole.length) '0' ++ ['.'] ++ (if part.isEmpty then ['0'] else part)

/-- A decimal with an exponent that has a sign and at least two digits. -/
def scientific (d : Decimal) : Text :=
  let x := d.point - 1
  let size := Numeral.ofNat x.natAbs
  d.digits.take 1 ++ (if d.digits.length ≤ 1 then [] else '.' :: d.digits.drop 1)
    ++ ['e', if x < 0 then '-' else '+'] ++ Text.fill (2 - size.length) '0' ++ size

/-- The text of a number. -/
def text : Binary64 → Text
  | nan => "nan".toList
  | infinite s => (if s then "-inf" else "inf").toList
  | finite s m e =>
    let magnitude :=
      if m = 0 then "0.0".toList
      else
        let d := shortest m e
        if -4 < d.point && d.point ≤ 16 then positional d else scientific d
    if s then '-' :: magnitude else magnitude

end Binary64

end Docblock
