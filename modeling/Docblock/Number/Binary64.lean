/-
# Docblock.Number.Binary64 — binary floating-point numbers of 64 bits.

A finite number is a whole multiple of a power of two, with at most 53 significant bits and an
exponent of at least -1074.  Every other number is represented by rounding: to the nearest of these,
and in the middle to the one with the even significand.  All arithmetic goes through exact fractions
of natural numbers, so nothing here depends on a machine's own floating-point unit.
-/
namespace Docblock

/-- A 64-bit binary floating-point number; a finite one is `significand · 2 ^ exponent`. -/
inductive Binary64 where
  | nan
  | infinite (negative : Bool)
  | finite (negative : Bool) (significand : Nat) (exponent : Int)
  deriving DecidableEq, Repr, Inhabited

namespace Binary64

/-- The least exponent of a finite number. -/
def minExponent : Int := -1074

/-- The greatest exponent of a finite number. -/
def maxExponent : Int := 971

/-- Zero, with a sign. -/
def zero (negative : Bool) : Binary64 := .finite negative 0 minExponent

/-- The whole number nearest to `num / den`; a half goes to the even neighbour. -/
def nearest (num den : Nat) : Nat :=
  let q := num / den
  let twice := 2 * (num % den)
  if twice < den then q else if den < twice then q + 1 else q + q % 2

/-- The fraction `num / den` times `2 ^ -e`, as a fraction. -/
def scaleDown (num den : Nat) (e : Int) : Nat × Nat :=
  if 0 ≤ e then (num, den * Nat.pow 2 e.toNat) else (num * Nat.pow 2 (-e).toNat, den)

/-- The greatest `e` with `2 ^ e ≤ num / den`, for positive `num` and `den`. -/
def binaryLog (num den : Nat) : Int :=
  let e : Int := (num.log2 : Int) - den.log2
  let (n, d) := scaleDown num den e
  if d ≤ n then e else e - 1

/-- The number nearest to the fraction `num / den`, infinite when that lies beyond all finite
ones. -/
def ofFraction (negative : Bool) (num den : Nat) : Binary64 :=
  if num = 0 then zero negative else
    let q := max (binaryLog num den - 52) minExponent
    let (n, d) := scaleDown num den q
    let m := nearest n d
    let (m, q) := if m = Nat.pow 2 53 then (Nat.pow 2 52, q + 1) else (m, q)
    if maxExponent < q then .infinite negative else .finite negative m q

/-- The number nearest to `coefficient · 10 ^ exponent`.  Exponents at which the result is zero or
infinite whatever the digits are decided first, so no huge power is ever formed. -/
def ofDecimal (negative : Bool) (coefficient : Nat) (exponent : Int) : Binary64 :=
  let size : Int := (Nat.toDigits 10 coefficient).length + exponent
  if coefficient = 0 || size < -400 then zero negative
  else if 400 < size then .infinite negative
  else if 0 ≤ exponent then ofFraction negative (coefficient * Nat.pow 10 exponent.toNat) 1
  else ofFraction negative coefficient (Nat.pow 10 (-exponent).toNat)

/-- The magnitude of a finite number as a fraction. -/
def fraction (significand : Nat) (exponent : Int) : Nat × Nat :=
  if 0 ≤ exponent then (significand * Nat.pow 2 exponent.toNat, 1)
  else (significand, Nat.pow 2 (-exponent).toNat)

/-- The same magnitude with the other sign. -/
def neg : Binary64 → Binary64
  | nan => nan
  | infinite s => .infinite !s
  | finite s m e => .finite (!s) m e

/-- The sum, rounded. -/
def add : Binary64 → Binary64 → Binary64
  | nan, _ | _, nan => nan
  | infinite s, infinite t => if s = t then .infinite s else nan
  | infinite s, _ | _, infinite s => .infinite s
  | finite s m e, finite t k f =>
    let (a, b) := fraction m e
    let (c, d) := fraction k f
    let x : Int := if s then -(a * d : Nat) else (a * d : Nat)
    let y : Int := if t then -(c * b : Nat) else (c * b : Nat)
    if x + y = 0 then zero (s && t) else ofFraction (x + y < 0) (x + y).natAbs (b * d)

/-- The product with a natural number, rounded. -/
def scale (x : Binary64) (n : Nat) : Binary64 :=
  match x with
  | nan => nan
  | infinite s => if n = 0 then nan else .infinite s
  | finite s m e =>
    let (a, b) := fraction m e
    ofFraction s (a * n) b

/-- Whether a number is zero, of either sign. -/
def isZero : Binary64 → Bool
  | finite _ 0 _ => true
  | _ => false

end Binary64

end Docblock
