/-
# Docblock.Json.Reader — reading structured values.

A recursive descent over the text.  Each step takes the position and the rest of the text and hands
back a value with the position and rest behind it, or the first place at which the text is no value.
Besides the standard form, the names `NaN`, `Infinity` and `-Infinity` are read as numbers.
-/
import Docblock.Json.Basic
import Docblock.Number.Numeral

namespace Docblock

namespace Json

/-- What is wrong with a text that is no value. -/
inductive Fault where
  | valueExpected
  | nameExpected
  | colonExpected
  | commaExpected
  | unterminatedString
  | controlCharacter
  | unknownEscape
  | badUnitEscape
  | textBehind
  | numeralTooLong
  deriving DecidableEq, Repr

/-- A fault and the place where it shows. -/
structure Misfit where
  fault : Fault
  position : Nat
  deriving DecidableEq, Repr

/-- A value read, the position behind it, and the rest of the text. -/
abbrev Step (α : Type) := Except Misfit (α × Nat × Text)

/-- Whether a character may stand between the parts of a value. -/
def isSpace (c : Char) : Bool := c == ' ' || c == '\t' || c == '\n' || c == '\r'

/-- Pass over space. -/
def skipSpace (p : Nat) (s : Text) : Nat × Text :=
  (p + (s.takeWhile isSpace).length, s.dropWhile isSpace)

/-- Four hexadecimal digits, with a character behind them. -/
def unit? : Text → Option (Nat × Text)
  | a :: b :: c :: d :: r => do
    let ds ← [a, b, c, d].mapM Numeral.hexValue?
    if r.isEmpty then none else some (Numeral.ofDigits 16 ds, r)
  | _ => none

/-- The character for a short escape. -/
def shortEscape? : Char → Option Char
  | '\x22' => some '\x22'
  | '\\' => some '\\'
  | '/' => some '/'
  | 'b' => some '\x08'
  | 'f' => some '\x0c'
  | 'n' => some '\n'
  | 'r' => some '\r'
  | 't' => some '\t'
  | _ => none

/-- The second half of a pair of UTF-16 units, written as an escape. -/
def lowHalf? : Text → Option (Nat × Text)
  | '\\' :: 'u' :: r =>
    match unit? r with
    | some (n, r') => if 0xDC00 ≤ n && n ≤ 0xDFFF then some (n, r') else none
    | none => none
  | _ => none

/-- The inside of a string up to its closing quote; `start` is where the opening quote stands. -/
def readString (start : Nat) : Nat → Nat → Text → Text → Step Text
  | 0, _, _, _ => .error ⟨.unterminatedString, start⟩
  | fuel + 1, p, acc, s =>
    match s with
    | [] => .error ⟨.unterminatedString, start⟩
    | '\x22' :: r => .ok (acc.reverse, p + 1, r)
    | '\\' :: [] => .error ⟨.unterminatedString, start⟩
    | '\\' :: 'u' :: r =>
      match unit? r with
      | none => .error ⟨.badUnitEscape, p + 1⟩
      | some (n, r') =>
        if 0xD800 ≤ n && n ≤ 0xDBFF then
          match lowHalf? r' with
          | some (m, r'') =>
            let c := Char.ofNat (0x10000 + (n - 0xD800) * 0x400 + (m - 0xDC00))
            readString start fuel (p + 12) (c :: acc) r''
          | none => readString start fuel (p + 6) ('\ufffd' :: acc) r'
        else if 0xDC00 ≤ n && n ≤ 0xDFFF then
          readString start fuel (p + 6) ('\ufffd' :: acc) r'
        else readString start fuel (p + 6) (Char.ofNat n :: acc) r'
    | '\\' :: c :: r =>
      match shortEscape? c with
      | some d => readString start fuel (p + 2) (d :: acc) r
      | none => .error ⟨.unknownEscape, p⟩
    | c :: r =>
      if c.toNat < 0x20 then .error ⟨.controlCharacter, p⟩
      else readString start fuel (p + 1) (c :: acc) r

/-- A number at the front of the text. -/
def readNumber (p : Nat) (s : Text) : Step Json :=
  let (negative, body) : Bool × Text :=
    match s with
    | '-' :: r => (true, r)
    | _ => (false, s)
  let digits := body.takeWhile Char.isDigit
  let whole := if digits.head? == some '0' then ['0'] else digits
  if whole.isEmpty then .error ⟨.valueExpected, p⟩
  else
    let r := body.drop whole.length
    let part : Text :=
      match r with
      | '.' :: t => t.takeWhile Char.isDigit
      | _ => []
    let r := if part.isEmpty then r else r.drop (part.length + 1)
    let power : Option (Bool × Text × Nat) :=
      match r with
      | e :: t =>
        if e == 'e' || e == 'E' then
          let (minus, u) := Numeral.sign t
          let ds := u.takeWhile Char.isDigit
          if ds.isEmpty then none else some (minus, ds, 1 + (t.length - u.length) + ds.length)
        else none
      | [] => none
    let used := (if negative then 1 else 0) + whole.length
      + (if part.isEmpty then 0 else part.length + 1)
      + (match power with | some (_, _, n) => n | none => 0)
    let rest := s.drop used
    let value (ds : Text) : Nat := Numeral.ofDigits 10 (ds.map fun c => c.toNat - 0x30)
    if part.isEmpty && power.isNone then
      if whole.length ≤ Numeral.maxDigits then
        let n : Int := value whole
        .ok (.int (if negative then -n else n), p + used, rest)
      else .error ⟨.numeralTooLong, p⟩
    else
      let x : Int :=
        match power with
        | some (minus, ds, _) => if minus then -(value ds : Int) else value ds
        | none => 0
      .ok (.float (Binary64.ofDecimal negative (value (whole ++ part)) (x - part.length)),
        p + used, rest)

mutual

/-- The value at the front of the text.  The first argument bounds the number of steps; the length
of the text is always enough. -/
def readValue : Nat → Nat → Text → Step Json
  | 0, p, _ => .error ⟨.valueExpected, p⟩
  | fuel + 1, p, s =>
    match s with
    | '\x22' :: r =>
      match readString p (fuel + 1) (p + 1) [] r with
      | .ok (t, p, r) => .ok (.string t, p, r)
      | .error e => .error e
    | '[' :: r =>
      let (p, r) := skipSpace (p + 1) r
      match r with
      | ']' :: r => .ok (.array [], p + 1, r)
      | _ => readItems fuel p r []
    | '\x7b' :: r =>
      let (p, r) := skipSpace (p + 1) r
      match r with
      | '\x7d' :: r => .ok (.object [], p + 1, r)
      | _ => readMembers fuel p r []
    | 'n' :: 'u' :: 'l' :: 'l' :: r => .ok (.null, p + 4, r)
    | 't' :: 'r' :: 'u' :: 'e' :: r => .ok (.bool true, p + 4, r)
    | 'f' :: 'a' :: 'l' :: 's' :: 'e' :: r => .ok (.bool false, p + 5, r)
    | 'N' :: 'a' :: 'N' :: r => .ok (.float .nan, p + 3, r)
    | _ =>
      match Text.after? "Infinity".toList s, Text.after? "-Infinity".toList s with
      | some r, _ => .ok (.float (.infinite false), p + 8, r)
      | _, some r => .ok (.float (.infinite true), p + 9, r)
      | _, _ => readNumber p s

/-- The items of an array from one of them on. -/
def readItems : Nat → Nat → Text → List Json → Step Json
  | 0, p, _, _ => .error ⟨.valueExpected, p⟩
  | fuel + 1, p, s, acc =>
    match readValue fuel p s with
    | .error e => .error e
    | .ok (v, p, r) =>
      let (p, r) := skipSpace p r
      match r with
      | ']' :: r => .ok (.array (v :: acc).reverse, p + 1, r)
      | ',' :: r =>
        let (p, r) := skipSpace (p + 1) r
        readItems fuel p r (v :: acc)
      | _ => .error ⟨.commaExpected, p⟩

/-- The members of an object from one of them on. -/
def readMembers : Nat → Nat → Text → List (Text × Json) → Step Json
  | 0, p, _, _ => .error ⟨.nameExpected, p⟩
  | fuel + 1, p, s, acc =>
    match s with
    | '\x22' :: r =>
      match readString p (r.length + 1) (p + 1) [] r with
      | .error e => .error e
      | .ok (k, p, r) =>
        let (p, r) := skipSpace p r
        match r with
        | ':' :: r =>
          let (p, r) := skipSpace (p + 1) r
          match readValue fuel p r with
          | .error e => .error e
          | .ok (v, p, r) =>
            let (p, r) := skipSpace p r
            match r with
            | '\x7d' :: r => .ok (.object ((k, v) :: acc).reverse, p + 1, r)
            | ',' :: r =>
              let (p, r) := skipSpace (p + 1) r
              readMembers fuel p r ((k, v) :: acc)
            | _ => .error ⟨.commaExpected, p⟩
        | _ => .error ⟨.colonExpected, p⟩
    | _ => .error ⟨.nameExpected, p⟩

end

/-- Read a text that is one value with nothing but space around it. -/
def read (s : Text) : Except Misfit Json :=
  let (p, r) := skipSpace 0 s
  match readValue (s.length + 1) p r with
  | .error e => .error e
  | .ok (v, p, r) =>
    let (p, r) := skipSpace p r
    if r.isEmpty then .ok v else .error ⟨.textBehind, p⟩

end Json

end Docblock
