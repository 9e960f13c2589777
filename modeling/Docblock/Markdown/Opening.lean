/-
# Docblock.Markdown.Opening — how blocks begin.

Each recogniser looks at the content of one line and says whether a block of its sort begins there,
and what the line tells about it.
-/
import Docblock.Html.RawTag
import Docblock.Markdown.LinkTarget
import Docblock.Number.Numeral
import Docblock.Url.Address

namespace Docblock.Markdown

/-! ## Rules, headings, fences -/

/-- Whether a line is a rule: at least three equal marks with nothing but spaces between. -/
def isRule (s : Text) : Bool :=
  match s with
  | c :: _ =>
    (c == '*' || c == '-' || c == '_') && s.all (fun d => d == c || isIndent d) && 3 ≤ s.count c
  | [] => false

/-- The level and text of a heading that is marked by number signs in front. -/
def heading? (s : Text) : Option (Nat × Text) :=
  let level := (s.takeWhile (· == '#')).length
  let r := s.drop level
  if level = 0 || 6 < level || !(r.isEmpty || r.head?.any isIndent) then none
  else
    let body := Text.dropEndWhile isIndent r
    let inner := Text.dropEndWhile (· == '#') body
    let body := if inner.getLast?.any isIndent then inner else body
    some (level, Text.trim body)

/-- The level of a heading that a line underlines. -/
def underline? (s : Text) : Option Nat :=
  match s with
  | c :: r =>
    if (c == '=' || c == '-') && (r.dropWhile (· == c)).all isIndent then
      some (if c == '=' then 1 else 2)
    else none
  | [] => none

/-- A fence that opens a block of code: its mark, its length, and what stands behind it. -/
structure Fence where
  mark : Char
  length : Nat
  info : Text
  deriving DecidableEq, Repr

/-- The fence on a line. -/
def fence? (s : Text) : Option Fence :=
  match s with
  | c :: _ =>
    let n := (s.takeWhile (· == c)).length
    let info := s.drop n
    if (c == '\x60' || c == '~') && 3 ≤ n && !(c == '\x60' && info.contains '\x60') then
      some ⟨c, n, info⟩
    else none
  | [] => none

/-- Whether a line closes a fence: it is at least as long, with nothing but spaces behind. -/
def Fence.closedBy (f : Fence) (s : Text) : Bool :=
  f.length ≤ (s.takeWhile (· == f.mark)).length && (s.dropWhile (· == f.mark)).all isIndent

/-! ## Items of lists -/

/-- The marker of a list item: its length, its last character, and the number it gives. -/
structure Marker where
  length : Nat
  last : Char
  number : Option Nat
  deriving DecidableEq, Repr

/-- Whether nothing, or a space, is at the front of a text. -/
def endsMarker (s : Text) : Bool := s.isEmpty || s.head?.any isIndent

/-- The marker at the front of a line: a number of at most nine digits with a point or bracket
behind, or a bullet. -/
def marker? (s : Text) : Option Marker :=
  let digits := s.takeWhile Char.isDigit
  if digits.isEmpty then
    match s with
    | c :: r =>
      if (c == '*' || c == '-' || c == '+') && endsMarker r then some ⟨1, c, none⟩ else none
    | [] => none
  else
    match s.drop digits.length with
    | c :: r =>
      if (c == ')' || c == '.') && digits.length ≤ 9 && endsMarker r then
        some ⟨digits.length + 1, c,
          some (Numeral.ofDigits 10 (digits.map fun d => d.toNat - 0x30))⟩
      else none
    | [] => none

/-- Whether a marker can go on the list that another one began. -/
def Marker.continues (m first : Marker) : Bool :=
  m.last == first.last && m.number.isSome == first.number.isSome

/-! ## Blocks of HTML -/

/-- The elements that begin a block of HTML. -/
def blockElements : List String := [
  "address", "article", "aside", "base", "basefont", "blockquote", "body", "caption", "center",
  "col", "colgroup", "dd", "details", "dialog", "dir", "div", "dl", "dt", "fieldset", "figcaption",
  "figure", "footer", "form", "frame", "frameset", "h1", "h2", "h3", "h4", "h5", "h6", "head",
  "header", "hr", "html", "iframe", "legend", "li", "link", "main", "menu", "menuitem", "nav",
  "noframes", "ol", "optgroup", "option", "p", "param", "search", "section", "summary", "table",
  "tbody", "td", "tfoot", "th", "thead", "title", "tr", "track", "ul"]

/-- The elements whose content is taken as it is. -/
def verbatimElements : List String := ["script", "pre", "style", "textarea"]

/-- The sorts of HTML block. -/
inductive HtmlBlock where
  | verbatim
  | comment
  | instruction
  | declaration
  | data
  | element
  | otherTag
  deriving DecidableEq, Repr

namespace HtmlBlock

/-- Whether a text begins with a name of a list, upper and lower case being equal, and what stands
behind it satisfies a condition. -/
def beginsName (names : List String) (behind : Text → Bool) (s : Text) : Bool :=
  let low := s.map Char.toLower
  names.any fun n =>
    match Text.after? n.toList low with
    | some r => behind r
    | none => false

/-- Whether a blank or the end stands at the front. -/
def atGap (s : Text) : Bool := s.isEmpty || s.head?.any isBlank

/-- The sort of HTML block that a line begins. -/
def ofLine? (s : Text) : Option HtmlBlock :=
  let behindTag := (Html.behindOpenTag? s).or (Html.behindCloseTag? s)
  if !Text.beginsWith ['<'] s then none
  else if beginsName verbatimElements (fun r => atGap r || r.head? == some '>') s.tail then
    some .verbatim
  else if Text.beginsWith "<!--".toList s then some .comment
  else if Text.beginsWith ['<', '?'] s then some .instruction
  else if Text.beginsWith ['<', '!'] s && (s.drop 2).head?.any Char.isUpper then some .declaration
  else if Text.beginsWith "<![CDATA[".toList s then some .data
  else if beginsName blockElements
      (fun r => atGap r || r.head? == some '>' || Text.beginsWith ['/', '>'] r)
      (if Text.beginsWith ['<', '/'] s then s.drop 2 else s.tail) then some .element
  else if behindTag.any Text.blank then some .otherTag
  else none

/-- Whether the block ends with a line. -/
def endsWith (s : Text) : HtmlBlock → Bool
  | verbatim =>
    let low := s.map Char.toLower
    verbatimElements.any fun n => Text.has ("</".toList ++ n.toList ++ ['>']) low
  | comment => Text.has "-->".toList s
  | instruction => Text.has ['?', '>'] s
  | declaration => Text.has ['>'] s
  | data => Text.has "]]>".toList s
  | element | otherTag => s.isEmpty

/-- Whether the block may begin right behind a line of a paragraph. -/
def interrupts (h : HtmlBlock) : Bool := h != otherTag

end HtmlBlock

/-! ## Definitions -/

/-- Up to the bracket that closes a label: the label and what stands behind.  No label holds an
opening bracket. -/
def label? : Text → Option (Text × Text)
  | [] => none
  | '\\' :: c :: r => (label? r).map fun (a, b) => ('\\' :: c :: a, b)
  | c :: r =>
    if c == '[' then none
    else if c == ']' then some ([], r)
    else (label? r).map fun (a, b) => (c :: a, b)

/-- Whether nothing but spaces is left on a line. -/
def lineDone (s : Text) : Bool :=
  match s.dropWhile isIndent with
  | [] => true
  | c :: _ => c == '\n'

/-- The definition at the front of a text, and the number of lines it takes.  A title that does not
end its line is none. -/
def definition? (s : Text) : Option (Definition × Nat) := do
  let r ← Text.after? ['['] s
  let (label, r) ← label? r
  let r ← Text.after? [':'] r
  let gap (c : Char) : Bool := isIndent c || c == '\n'
  let (address, behind) ← address? (r.dropWhile gap)
  let address := Address.normalize address
  if !Address.isSafe address || (labelKey label).isEmpty then none
  else
    let lines (rest : Text) : Nat := 1 + (s.take (s.length - rest.length)).count '\n'
    let made (title rest : Text) : Definition × Nat :=
      ({ label := labelKey label, address, title }, lines rest)
    let next := behind.dropWhile gap
    match if next.length < behind.length then title? next else none with
    | some (title, rest) =>
      if lineDone rest then some (made title rest)
      else if !title.isEmpty && lineDone behind then some (made [] behind)
      else none
    | none => if lineDone behind then some (made [] behind) else none

end Docblock.Markdown
