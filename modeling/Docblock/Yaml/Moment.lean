/-
# Docblock.Yaml.Moment — dates and times.

A date is a year, a month and a day with hyphens between them.  A time of day may follow, and behind
it the distance from universal time.  A text can have this form and still name no day of the
calendar.
-/
import Docblock.Number.Numeral
import Docblock.Yaml.Fault

namespace Docblock.Yaml

/-- A time of day. -/
structure Clock where
  hour : Nat
  minute : Nat
  second : Nat
  /-- The distance from universal time in minutes. -/
  zone : Nat
  deriving DecidableEq, Repr, Inhabited

/-- A date, possibly with a time of day. -/
structure Moment where
  year : Nat
  month : Nat
  day : Nat
  /-- Whether month and day have two digits each. -/
  padded : Bool
  clock : Option Clock
  deriving DecidableEq, Repr, Inhabited

namespace Moment

/-! ## Form -/

/-- A number of at least `least` and at most `most` digits at the front of a text. -/
def field? (least most : Nat) (s : Text) : Option (Nat × Text) :=
  let ds := (s.take most).takeWhile Char.isDigit
  if ds.length < least then none
  else some (Numeral.ofDigits 10 (ds.map fun c => c.toNat - 0x30), s.drop ds.length)

/-- The distance from universal time, which is the whole of a text. -/
def zone? (s : Text) : Option Nat :=
  match s.dropWhile isIndent with
  | ['Z'] => some 0
  | sign :: r =>
    if sign == '+' || sign == '-' then do
      let (hours, r) ← field? 1 2 r
      match r with
      | [] => some (hours * 60)
      | ':' :: r =>
        let (minutes, r) ← field? 2 2 r
        if r.isEmpty then some (hours * 60 + minutes) else none
      | _ => none
    else none
  | [] => none

/-- A time of day, which is the whole of a text. -/
def clock? (s : Text) : Option Clock := do
  let (hour, r) ← field? 1 2 s
  let (minute, r) ← field? 2 2 (← Text.after? [':'] r)
  let (second, r) ← field? 2 2 (← Text.after? [':'] r)
  let r : Text :=
    match r with
    | '.' :: t => t.dropWhile Char.isDigit
    | _ => r
  if r.isEmpty then some { hour, minute, second, zone := 0 }
  else do return { hour, minute, second, zone := ← zone? r }

/-- A moment, which is the whole of a text. -/
def ofText? (s : Text) : Option Moment := do
  let (year, r) ← field? 4 4 s
  let (month, r₁) ← field? 1 2 (← Text.after? ['-'] r)
  let (day, r₂) ← field? 1 2 (← Text.after? ['-'] r₁)
  let padded := r.length == r₁.length + 3 && r₁.length == r₂.length + 3
  let date := { year, month, day, padded, clock := none : Moment }
  match r₂ with
  | [] => some date
  | c :: t =>
    let t ←
      if c == 'T' || c == 't' then some t
      else if isIndent c then some (t.dropWhile isIndent) else none
    return { date with clock := some (← clock? t) }

/-- Whether a text looks like a moment: a bare date needs two digits for month and day. -/
def looksLike (s : Text) : Bool := (ofText? s).any fun m => m.padded || m.clock.isSome

/-! ## The calendar -/

/-- Whether a year has a leap day. -/
def isLeap (year : Nat) : Bool := year % 4 == 0 && (year % 100 != 0 || year % 400 == 0)

/-- The number of days of a month. -/
def daysIn (year month : Nat) : Nat :=
  if month == 2 then (if isLeap year then 29 else 28)
  else if [4, 6, 9, 11].contains month then 30
  else 31

/-- Whether a time of day exists. -/
def clockExists (c : Clock) : Bool :=
  c.hour < 24 && c.minute < 60 && c.second < 60 && c.zone < 24 * 60

/-- Whether a moment exists. -/
def isReal (m : Moment) : Bool :=
  1 ≤ m.year && 1 ≤ m.month && m.month ≤ 12 && 1 ≤ m.day && m.day ≤ daysIn m.year m.month
    && m.clock.all clockExists

/-- Check that a text stands for a moment that exists. -/
def check (s : Text) : Except Fault Unit :=
  let t := if s.getLast? == some '\n' then s.dropLast else s
  match ofText? t with
  | none => .error .notADate
  | some m => if m.isReal then .ok () else .error .noSuchDate

end Moment

end Docblock.Yaml
