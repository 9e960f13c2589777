/-
# Docblock.Markdown.LinkTarget — addresses and titles of links as they are written.

The address of a link stands in angle brackets, or bare up to the next space with its round brackets
balanced; a title stands in quotes or round brackets.  In both, a backslash in front of punctuation
and character references stand for the character that is meant.
-/
import Docblock.Html.Entity
import Docblock.Text.Blank
import Docblock.Text.Caseless
import Docblock.Text.Punctuation

namespace Docblock.Markdown

/-- The characters that a reference between ampersand and semicolon stands for. -/
def referred? (name : Text) : Option Text :=
  match Html.named? name with
  | some s => some s
  | none =>
    match name with
    | '#' :: ds =>
      match Html.referenceNumber? 8 8 ds with
      | some n => if Html.isReferable n then some [Char.ofNat n] else none
      | none => none
    | _ => none

/-- Whether a text has the form of what stands between ampersand and semicolon. -/
def isReferenceBody (s : Text) : Bool :=
  match s with
  | [] => false
  | c :: r => (c.isAlpha || c == '#') && r.all Char.isAlphanum && 1 ≤ r.length && r.length ≤ 31

/-- A character reference at the front of a text, behind its ampersand: what it stands for and the
rest.  The body of a reference is short, so only so many characters are looked at. -/
def reference? (s : Text) : Option (Text × Text) :=
  match Text.cut [';'] (s.take 33) with
  | (body, some _) =>
    if isReferenceBody body then (referred? body).map (·, s.drop (body.length + 1)) else none
  | (_, none) => none

/-- Replace escapes and references by what they stand for. -/
def plainFrom : Nat → Text → Text
  | 0, s => s
  | _, [] => []
  | fuel + 1, '\\' :: c :: r =>
    if isAsciiPunctuation c then c :: plainFrom fuel r else '\\' :: plainFrom fuel (c :: r)
  | fuel + 1, '&' :: r =>
    match reference? r with
    | some (t, r') => t ++ plainFrom fuel r'
    | none => '&' :: plainFrom fuel r
  | fuel + 1, c :: r => c :: plainFrom fuel r

/-- Replace escapes and references by what they stand for. -/
def plain (s : Text) : Text := plainFrom s.length s

/-! ## Addresses -/

/-- Up to the closing angle bracket: what stands before it and behind it. -/
def bracketed? : Text → Option (Text × Text)
  | [] => none
  | '\\' :: c :: r => (bracketed? r).map fun (a, b) => ('\\' :: c :: a, b)
  | c :: r =>
    if c == '\n' || c == '<' then none
    else if c == '>' then some ([], r)
    else (bracketed? r).map fun (a, b) => (c :: a, b)

/-- Up to the end of a bare address, with the depth of round brackets: the address and what stands
behind it.  No address has more than 32 brackets open. -/
def bare? : Nat → Text → Option (Text × Text)
  | 0, [] => some ([], [])
  | _ + 1, [] => none
  | depth, '\\' :: c :: r =>
    if c == ' ' then if depth = 0 then some ([], '\\' :: c :: r) else none
    else (bare? depth r).map fun (a, b) => ('\\' :: c :: a, b)
  | depth, c :: r =>
    if c.toNat ≤ 0x20 || c.toNat == 0x7F then if depth = 0 then some ([], c :: r) else none
    else if c == '(' then
      if depth < 32 then (bare? (depth + 1) r).map fun (a, b) => (c :: a, b) else none
    else if c == ')' then
      if depth = 0 then some ([], c :: r)
      else (bare? (depth - 1) r).map fun (a, b) => (c :: a, b)
    else (bare? depth r).map fun (a, b) => (c :: a, b)

/-- The address at the front of a text, and the rest. -/
def address? (s : Text) : Option (Text × Text) :=
  match s with
  | '<' :: r => (bracketed? r).map fun (a, b) => (plain a, b)
  | _ =>
    match bare? 0 s with
    | some (c :: a, b) => some (plain (c :: a), b)
    | _ => none

/-! ## Titles -/

/-- The mark that closes a title, by the one that opens it. -/
def closingMark? : Char → Option Char
  | '\x22' => some '\x22'
  | '\x27' => some '\x27'
  | '(' => some ')'
  | _ => none

/-- Up to the closing mark: what stands before it and behind it.  A title in round brackets holds no
opening bracket. -/
def titleText? (mark : Char) : Text → Option (Text × Text)
  | [] => none
  | '\\' :: c :: r => (titleText? mark r).map fun (a, b) => ('\\' :: c :: a, b)
  | c :: r =>
    if c == mark then some ([], r)
    else if c == '(' && mark == ')' then none
    else (titleText? mark r).map fun (a, b) => (c :: a, b)

/-- The title at the front of a text, and the rest. -/
def title? (s : Text) : Option (Text × Text) :=
  match s with
  | [] => none
  | c :: r => do
    let mark ← closingMark? c
    let (a, b) ← titleText? mark r
    some (plain a, b)

/-! ## Labels -/

/-- The form in which labels are compared: trimmed, with one space for each run of blanks, and
without regard to case. -/
def labelKey (s : Text) : Text := Text.caseless (Text.unwords (Text.words s))

/-- Where a label leads. -/
structure Definition where
  label : Text
  address : Text
  title : Text
  deriving DecidableEq, Repr

/-- The first definition of a label. -/
def Definition.find? (ds : List Definition) (label : Text) : Option Definition :=
  ds.find? (·.label = labelKey label)

end Docblock.Markdown
