/-
# Docblock.Number.Real — numbers with a fraction in writing.

A number is written as digits with a point among them or at either end, and possibly an exponent.
Infinity and what is not a number have names.  Digits of any script count, and blanks may surround
the whole.
-/
import Docblock.Number.Binary64
import Docblock.Number.Numeral

namespace Docblock.Binary64

/-- The digit values of a text that consists of digits. -/
def digits? (s : Text) : Option (List Nat) := s.mapM digitValue?

/-- The exponent behind a mantissa; an absent one is zero. -/
def exponent? (s : Text) : Option Int :=
  match s with
  | [] => some 0
  | e :: r =>
    if e == 'e' || e == 'E' then
      let (negative, ds) := Numeral.sign r
      if ds.isEmpty then none
      else (digits? ds).map fun ds =>
        let n : Int := Numeral.ofDigits 10 ds
        if negative then -n else n
    else none

/-- Read a number without its sign. -/
def magnitudeOfText? (negative : Bool) (s : Text) : Option Binary64 := do
  let isDigit (c : Char) : Bool := (digitValue? c).isSome
  let front := s.takeWhile isDigit
  let r := s.drop front.length
  let (part, r) : Text × Text :=
    match r with
    | '.' :: t => (t.takeWhile isDigit, t.dropWhile isDigit)
    | _ => ([], r)
  let e ← exponent? r
  let ds ← digits? (front ++ part)
  if ds.isEmpty then none
  else some (ofDecimal negative (Numeral.ofDigits 10 ds) (e - part.length))

/-- Read a number from the whole of a text in lower case. -/
def ofText? (s : Text) : Option Binary64 :=
  let (negative, body) := Numeral.sign (Text.dropAround Numeral.isMargin s)
  if body = "inf".toList || body = "infinity".toList then some (.infinite negative)
  else if body = "nan".toList then some .nan
  else magnitudeOfText? negative body

end Docblock.Binary64
