/-
# Docblock.Markdown.Delimiter — where emphasis begins and ends.

Runs of stars, low lines and tildes may set off text.  A run can begin emphasis when it leans on
what follows it, and end emphasis when it leans on what precedes it.  Delimiters are paired from
left to right: each one that can end emphasis takes the nearest one before it that can begin it, and
what lies between the two no longer takes part.  Two pairs of single delimiters, one right around
the other, make strong emphasis.
-/
import Docblock.Markdown.Inline
import Docblock.Text.Punctuation

namespace Docblock.Markdown

/-- A delimiter that may begin or end a stretch of text. -/
structure Delimiter where
  marker : Char
  /-- How the delimiter is written when it has no partner. -/
  written : Text
  /-- The length of its run, as far as the rule of three looks at it. -/
  weight : Nat
  canOpen : Bool
  canClose : Bool
  deriving DecidableEq, Repr

namespace Delimiter

/-- Whether a run with the given neighbours can begin and can end a stretch of text.  When `inWord`
is false, a run inside a word can do neither. -/
def flanking (before after : Char) (inWord : Bool) : Bool × Bool :=
  let punctBefore := isPunctuation before
  let punctAfter := isPunctuation after
  let left := !(isSpace after || (punctAfter && !(isSpace before || punctBefore)))
  let right := !(isSpace before || (punctBefore && !(isSpace after || punctAfter)))
  (left && (inWord || !right || punctBefore), right && (inWord || !left || punctAfter))

/-- Whether a beginning and an end may be partners, by the rule of three: when one of them could
also do the other's job, the lengths of their runs must not add up to a multiple of three, unless
both are such multiples. -/
def fits (opener closer : Delimiter) : Bool :=
  !((opener.canClose || closer.canOpen) && (opener.weight + closer.weight) % 3 == 0
    && (opener.weight % 3 != 0 || closer.weight % 3 != 0))

end Delimiter

/-- A part of a line in which delimiters are still to be paired. -/
inductive Item where
  | part (i : Inline)
  | delimiter (d : Delimiter)
  deriving DecidableEq, Repr

/-! ## Pairing -/

/-- A delimiter that waits for a partner, with its place and the number of its run. -/
structure Waiting where
  place : Nat
  run : Nat
  delimiter : Delimiter
  deriving DecidableEq, Repr

/-- What the pairing of delimiters keeps on its way. -/
structure Pairing where
  /-- Delimiters without a partner, the last one first. -/
  waiting : List Waiting := []
  /-- Places of partners, the last pair first. -/
  pairs : List (Nat × Nat × Char) := []
  /-- The number of the current run. -/
  run : Nat := 0
  /-- The place and marker of the delimiter before, while its run may go on. -/
  last : Option (Nat × Char) := none

namespace Pairing

/-- The nearest partner among the waiting delimiters, and those that waited before it. -/
def partner? (closer : Delimiter) (run : Nat) : List Waiting → Option (Waiting × List Waiting)
  | [] => none
  | w :: ws =>
    if w.delimiter.marker == closer.marker && w.run != run && w.delimiter.canOpen
        && w.delimiter.fits closer then some (w, ws)
    else partner? closer run ws

/-- Take one more delimiter into account. -/
def step (p : Pairing) (place : Nat) (d : Delimiter) : Pairing :=
  let run := if p.last = some (place - 1, d.marker) && 0 < place then p.run else p.run + 1
  match if d.canClose then partner? d run p.waiting else none with
  | some (w, ws) =>
    { waiting := ws, pairs := (w.place, place, d.marker) :: p.pairs, run, last := none }
  | none =>
    { p with waiting := ⟨place, run, d⟩ :: p.waiting, run, last := some (place, d.marker) }

/-- Pair the delimiters in a list of items whose first stands at `place`. -/
def all (p : Pairing) (place : Nat) : List Item → Pairing
  | [] => p
  | .part _ :: is => all p (place + 1) is
  | .delimiter d :: is => all (p.step place d) (place + 1) is

end Pairing

/-! ## Spans -/

/-- The parts that take the place of paired delimiters, from pairs whose openers come last to first.
A pair right inside another one of the same kind makes the two strong emphasis together. -/
def spansOf : List (Nat × Nat × Char) → List (Nat × List Inline)
  | [] => []
  | [(o, c, m)] => single o c m
  | (o, c, m) :: (o', c', m') :: ps =>
    if m != '~' && m' == m && o' + 1 == o && c' == c + 1 then
      (o, [.opens .strong]) :: (c, [.closes .strong]) :: (o', []) :: (c', []) :: spansOf ps
    else single o c m ++ spansOf ((o', c', m') :: ps)
where
  single (o c : Nat) (m : Char) : List (Nat × List Inline) :=
    let k := if m == '~' then Span.strike else Span.emphasis
    [(o, [.opens k]), (c, [.closes k])]

/-- Whether a part is a tilde that was left over by a run of odd length. -/
def isLoneTilde (i : Inline) : Bool := i == .text ['~']

/-- The parts of a list of items once delimiters are paired, from `place` on; delimiters without a
partner stand for themselves. -/
def written (spans : List (Nat × List Inline)) (place : Nat) : List Item → List Inline
  | [] => []
  | .part i :: is => i :: written spans (place + 1) is
  | .delimiter d :: is =>
    (spans.lookup place).getD [.text d.written] ++ written spans (place + 1) is

/-- Move a left-over tilde behind the ends of struck text that follow it. -/
def moveTildes : List Inline → List Inline
  | [] => []
  | i :: is =>
    let is := moveTildes is
    if isLoneTilde i then
      let ends := is.takeWhile (· == .closes .strike)
      ends ++ i :: is.drop ends.length
    else i :: is

/-- Pair all delimiters of a line and give its parts. -/
def resolve (items : List Item) : List Inline :=
  let pairs := (({} : Pairing).all 0 items).pairs
  let byOpener := pairs.mergeSort fun a b => b.1 ≤ a.1
  moveTildes (written (spansOf byOpener) 0 items)

end Docblock.Markdown
