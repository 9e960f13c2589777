/-
# Docblock.Yaml.Number — numbers in documents.

Whole numbers are written in base two, eight, ten or sixteen; a number may also be written in base
sixty, its places in decimal digits with colons between them.  Low lines may stand anywhere among
the digits.  What looks like a number is narrower than what can be read as one, because a tag can
demand a number.
-/
import Docblock.Number.Real
import Docblock.Text.Case
import Docblock.Yaml.Fault

namespace Docblock.Yaml

/-! ## What looks like a number -/

/-- Whether a text is not empty and consists of low lines and characters that satisfy `p`. -/
def isRun (p : Char → Bool) (s : Text) : Bool := !s.isEmpty && s.all fun c => c == '_' || p c

/-- Whether a text is a decimal digit followed by digits and low lines. -/
def beginsWithDigit (s : Text) : Bool := s.head?.any Char.isDigit && isRun Char.isDigit s

/-- Whether a text is a place in base sixty. -/
def isSixtieth (s : Text) : Bool :=
  match s with
  | [a] => a.isDigit
  | [a, b] => '0' ≤ a && a ≤ '5' && b.isDigit
  | _ => false

/-- Whether a text looks like a whole number. -/
def looksWhole (s : Text) : Bool :=
  let (_, r) := Numeral.sign s
  match r with
  | ['0'] => true
  | '0' :: 'b' :: ds => isRun (fun c => c == '0' || c == '1') ds
  | '0' :: 'x' :: ds => isRun (Numeral.hexValue? · |>.isSome) ds
  | '0' :: ds => isRun (fun c => '0' ≤ c && c ≤ '7') ds
  | _ =>
    match Text.pieces [':'] r with
    | first :: places => beginsWithDigit first && places.all isSixtieth
    | [] => false

/-- Whether a text is empty or an exponent with its sign. -/
def isExponent (s : Text) : Bool :=
  match s with
  | [] => true
  | e :: sign :: ds =>
    (e == 'e' || e == 'E') && (sign == '+' || sign == '-') && !ds.isEmpty && ds.all Char.isDigit
  | _ => false

/-- Whether a text is digits behind a point, possibly with an exponent. -/
def isFraction (s : Text) : Bool :=
  isExponent (s.dropWhile fun c => c == '_' || c.isDigit)

/-- Whether a text looks like a number that need not be whole. -/
def looksReal (s : Text) : Bool :=
  let (_, r) := Numeral.sign s
  match r with
  | '.' :: part =>
    (["inf", "Inf", "INF"].map String.toList).contains part
      || (r.length == s.length
        && ((["nan", "NaN", "NAN"].map String.toList).contains part
          || (part.head?.any Char.isDigit && isFraction part)))
  | _ =>
    match Text.cut ['.'] r with
    | (whole, some part) =>
      match Text.pieces [':'] whole with
      | [digits] => beginsWithDigit digits && isFraction part
      | first :: places =>
        beginsWithDigit first && places.all isSixtieth
          && part.all fun c => c == '_' || c.isDigit
      | [] => false
    | (_, none) => false

/-! ## Reading -/

/-- A numeral without its sign. -/
def magnitude? (s : Text) : Option Int :=
  match s with
  | ['0'] => some 0
  | '0' :: 'b' :: r => Numeral.toIntIn? 2 'b' r
  | '0' :: 'x' :: r => Numeral.toIntIn? 16 'x' r
  | '0' :: _ => Numeral.toIntIn? 8 'o' s
  | _ => do
    let places ← (Text.pieces [':'] s).mapM Numeral.toInt?
    return places.foldl (fun n d => n * 60 + d) 0

/-- The whole number that a text stands for. -/
def whole (s : Text) : Except Fault Int :=
  let s := s.filter (· != '_')
  let (negative, r) := Numeral.sign s
  if r.isEmpty then .error .emptyNumeral
  else
    match magnitude? r with
    | some n => .ok (if negative then -n else n)
    | none => .error .badNumeral

/-- The number in base sixty with the given places, the last one first. -/
def ofSixtieths (places : List Binary64) : Binary64 :=
  (places.foldl (fun (sum, unit) d => (sum.add (d.scale unit), unit * 60))
    (Binary64.zero false, 1)).1

/-- The number that a text stands for. -/
def real (s : Text) : Except Fault Binary64 :=
  let s := Text.lower (s.filter (· != '_'))
  if s.isEmpty then .error .emptyNumeral
  else
    let (negative, r) := Numeral.sign s
    let size? : Option Binary64 :=
      if r = ".inf".toList then some (.infinite false)
      else if r = ".nan".toList then some .nan
      else do
        match ← (Text.pieces [':'] r).mapM Binary64.ofText? with
        | [x] => some x
        | places => some (ofSixtieths places.reverse)
    match size? with
    | some x => .ok (if negative then x.neg else x)
    | none => .error .badNumeral

end Docblock.Yaml
