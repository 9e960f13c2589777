/-
# Docblock.Markdown.LineReader — reading the inline parts of a text.

The text is read from left to right.  Whether a bracket begins a link depends on everything up to
the end of the link, so first the length of the token at every place is found, from right to left;
the label of a link ends at the first bracket that closes it and is not inside another token.  The
second pass gives the parts, with delimiters still to be paired.
-/
import Docblock.Html.RawTag
import Docblock.Markdown.Delimiter
import Docblock.Markdown.LinkTarget
import Docblock.Url.Address

namespace Docblock.Markdown

/-- What the reading of a line depends on. -/
structure Setting where
  /-- HTML is kept as it is. -/
  html : Bool
  definitions : List Definition

/-- Whether a character is a space or a line feed, which may stand between the parts of a link. -/
def isGap (c : Char) : Bool := isIndent c || c == '\n'

/-! ## Code -/

/-- What stands before the first run of exactly `n` backticks. -/
def beforeRun? (n : Nat) : Nat → Text → Option Text
  | 0, _ => none
  | fuel + 1, s =>
    let a := s.takeWhile (· != '\x60')
    let r := s.drop a.length
    let k := (r.takeWhile (· == '\x60')).length
    if k = 0 then none
    else if k = n then some a
    else (beforeRun? n fuel (r.drop k)).map fun b => a ++ Text.fill k '\x60' ++ b

/-- The text of a code span: on one line, without one space at both ends when it has one at both and
is not blank. -/
def codeText (s : Text) : Text :=
  let s := s.map fun c => if c == '\n' then ' ' else c
  if s.head? == some ' ' && s.getLast? == some ' ' && !Text.blank s then s.tail.dropLast else s

/-- The run of backticks at the front of a text, and the inside of the code span it begins. -/
def codeSpan (s : Text) : Nat × Option Text :=
  let n := (s.takeWhile (· == '\x60')).length
  (n, beforeRun? n (s.length + 1) (s.drop n))

/-! ## Links in angle brackets, and HTML -/

/-- Whether a text is an absolute address: a protocol of at least two characters and a colon, with
no space or bracket behind. -/
def isAbsolute (s : Text) : Bool :=
  let isProtocol (c : Char) : Bool := c.isAlphanum || c == '+' || c == '.' || c == '-'
  let name := s.takeWhile isProtocol
  match s.drop name.length with
  | ':' :: r =>
    (name.head?.any Char.isAlpha) && 2 ≤ name.length && name.length ≤ 32
      && r.all fun c => 0x20 < c.toNat && c != '<' && c != '>'
  | _ => false

/-- Whether a text is one label of a mail address's domain. -/
def isMailLabel (s : Text) : Bool :=
  s.all (fun c => c.isAlphanum || c == '-') && s.length ≤ 63
    && s.head?.any Char.isAlphanum && s.getLast?.any Char.isAlphanum

/-- Whether a text is a mail address. -/
def isMail (s : Text) : Bool :=
  match s.splitOn '@' with
  | [user, domain] =>
    !user.isEmpty
      && user.all (fun c => c.isAlphanum || ".!#$%&\x27*+/=?^_\x60\x7b|\x7d~-".toList.contains c)
      && (domain.splitOn '.').all isMailLabel
  | _ => false

/-- The inside of angle brackets at the front of a text, behind the opening one. -/
def angled? (s : Text) : Option Text :=
  match Text.cut ['>'] s with
  | (inside, some _) => if inside.contains '<' then none else some inside
  | (_, none) => none

/-- The address that a link in angle brackets leads to. -/
def angledAddress? (inside : Text) : Option Text :=
  let bare := if inside.getLast? == some '\n' then inside.dropLast else inside
  let address :=
    if isAbsolute bare then some (Address.normalize inside)
    else if isMail bare then some (Address.normalize ("mailto:".toList ++ inside))
    else none
  address.filter Address.isSafe

/-- The length of the HTML tag at the front of a text, when HTML is kept. -/
def tagLength? (st : Setting) (s : Text) : Option Nat :=
  if st.html then (Html.behindTag? s).map (s.length - ·.length) else none

/-! ## Character references -/

/-- The characters that a reference stands for and its length, behind the ampersand. -/
def lineReference? (s : Text) : Option (Text × Nat) :=
  match Text.cut [';'] (s.take 33) with
  | (body, some _) =>
    match body with
    | '#' :: ds =>
      (Html.referenceNumber? 7 6 ds).map fun n =>
        (if Html.isReferable n then [Char.ofNat n] else ['\ufffd'], body.length + 1)
    | _ =>
      if Html.isEntityName body then (Html.named? body).map (·, body.length + 1) else none
  | (_, none) => none

/-! ## Links and images -/

/-- The length of a label up to the bracket that closes it, from the lengths of the tokens at each
place.  Unless links may be nested, a link inside the label spoils it. -/
def labelLength? (nested : Bool) : Nat → Nat → Text → List Nat → Option Nat
  | level, skip + 1, _ :: r, _ :: ns => (labelLength? nested level skip r ns).map (· + 1)
  | level, 0, c :: r, n :: ns =>
    if c == ']' then
      if level = 0 then some 0 else (labelLength? nested (level - 1) (n - 1) r ns).map (· + 1)
    else if c == '[' then
      if n = 1 then (labelLength? nested (level + 1) 0 r ns).map (· + 1)
      else if nested then (labelLength? nested level (n - 1) r ns).map (· + 1)
      else none
    else (labelLength? nested level (n - 1) r ns).map (· + 1)
  | _, _, _, _ => none

/-- The address and title behind an opening round bracket, and the place where a closing one should
stand.  An address that is not safe is not passed over. -/
def target (s : Text) : Text × Text × Text :=
  match address? s with
  | none => ([], [], s)
  | some (a, behind) =>
    let a := Address.normalize a
    let (a, behind) := if Address.isSafe a then (a, behind) else ([], s)
    let gap := behind.dropWhile isGap
    match if gap.length < behind.length then title? gap else none with
    | some (t, r) => (a, t, r.dropWhile isGap)
    | none => (a, [], gap)

/-- A link or image: the length of its label, where it leads, its title, and its whole length behind
the opening bracket. -/
structure Link where
  label : Nat
  address : Text
  title : Text
  length : Nat

/-- The link behind a label of the given length that a definition gives, when the place right after
the label is `place` characters further on. -/
def defined? (st : Setting) (s : Text) (ns : List Nat) (label place : Nat) : Option Link :=
  let short := (s.take label, label + 1)
  let (name, length) :=
    match s.drop place with
    | '[' :: r =>
      match labelLength? true 0 0 r (ns.drop (place + 1)) with
      | some n => (if n = 0 then short.1 else r.take n, place + n + 2)
      | none => short
    | _ => short
  (Definition.find? st.definitions name).map fun d => ⟨label, d.address, d.title, length⟩

/-- The link at the front of a text, behind its opening bracket, given the token lengths at each
place.  A target that is not closed counts as none; then the label may still be defined. -/
def link? (st : Setting) (s : Text) (ns : List Nat) : Option Link := do
  let label ← labelLength? false 0 0 s ns
  match s.drop (label + 1) with
  | '(' :: r =>
    let inside := r.dropWhile isGap
    if inside.isEmpty then none
    else
      let (address, title, behind) := target inside
      match behind with
      | ')' :: r' => some ⟨label, address, title, s.length - r'.length⟩
      | _ => defined? st s ns label (s.length - behind.length + 1)
  | _ => defined? st s ns label (label + 1)

/-- The image at the front of a text, behind its opening bracket. -/
def image? (st : Setting) (s : Text) (ns : List Nat) : Option Link := do
  let label ← labelLength? true 0 0 s ns
  match s.drop (label + 1) with
  | '(' :: r =>
    let inside := r.dropWhile isGap
    let (address, title, behind) := target inside
    match behind with
    | ')' :: r' => some ⟨label, address, title, s.length - r'.length⟩
    | _ => none
  | _ => defined? st s ns label (label + 1)

/-! ## Token lengths -/

/-- The length of the token at the front of a text, given those at later places. -/
def tokenLength (st : Setting) (c : Char) (r : Text) (ns : List Nat) : Nat :=
  match c with
  | '\\' => if r.isEmpty then 1 else 2
  | '\x60' =>
    match codeSpan (c :: r) with
    | (n, some inside) => n + inside.length + n
    | (n, none) => n
  | '[' => ((link? st r ns).map (·.length + 1)).getD 1
  | '!' =>
    match r with
    | '[' :: r' => ((image? st r' ns.tail).map (·.length + 2)).getD 1
    | _ => 1
  | '<' =>
    match (angled? r).bind fun i => (angledAddress? i).map fun _ => i.length + 2 with
    | some n => n
    | none => (tagLength? st (c :: r)).getD 1
  | '&' => ((lineReference? r).map (·.2 + 1)).getD 1
  | _ => 1

/-- The length of the token at each place of a text. -/
def tokenLengths (st : Setting) : Text → List Nat
  | [] => []
  | c :: r =>
    let ns := tokenLengths st r
    tokenLength st c r ns :: ns

/-! ## Parts -/

/-- The text that was read since the last part, if any, as an item. -/
def pendingItem (pending : Text) : List Item :=
  if pending.isEmpty then [] else [.part (.text pending.reverse)]

/-- The items for a line feed behind pending text: two spaces before it make a hard break. -/
def breakItems (pending : Text) : List Item :=
  match pending with
  | ' ' :: ' ' :: r => pendingItem (r.dropWhile (· == ' ')) ++ [.part .hardBreak]
  | ' ' :: r => pendingItem r ++ [.part .softBreak]
  | r => pendingItem r ++ [.part .softBreak]

/-- The items for a run of `n` stars or low lines. -/
def emphasisItems (marker before after : Char) (n : Nat) : List Item :=
  let (canOpen, canClose) := Delimiter.flanking before after (marker == '*')
  List.replicate n (.delimiter ⟨marker, [marker], n, canOpen, canClose⟩)

/-- The items for a run of `n` tildes. -/
def strikeItems (before after : Char) (n : Nat) : List Item :=
  let (canOpen, canClose) := Delimiter.flanking before after true
  (if n % 2 = 0 then [] else [.part (.text ['~'])])
    ++ List.replicate (n / 2) (.delimiter ⟨'~', ['~', '~'], 0, canOpen, canClose⟩)

/-- The items of a text.  `before` is the character in front of it, `pending` the text read since
the last part, backwards, and `ns` are the lengths of the tokens. -/
def itemsFrom (st : Setting) : Nat → Char → Text → Text → List Nat → List Item
  | 0, _, pending, _, _ => pendingItem pending
  | _, _, pending, [], _ => pendingItem pending
  | fuel + 1, before, pending, c :: r, ns =>
    let plainly (n : Nat) : List Item :=
      let run := (c :: r).take n
      itemsFrom st fuel (run.getLastD c) (run.reverse ++ pending) ((c :: r).drop n) (ns.drop n)
    let onward (items : List Item) (n : Nat) : List Item :=
      let run := (c :: r).take n
      pendingItem pending ++ items
        ++ itemsFrom st fuel (run.getLastD c) [] ((c :: r).drop n) (ns.drop n)
    let inside (opener : Char) (s : Text) (ns : List Nat) : List Inline :=
      resolve (itemsFrom st fuel opener [] s ns)
    match c with
    | '\n' =>
      let n := 1 + (r.takeWhile isIndent).length
      breakItems pending ++ itemsFrom st fuel ' ' [] ((c :: r).drop n) (ns.drop n)
    | '\\' =>
      match r with
      | [] => plainly 1
      | '\n' :: r' => onward [.part .hardBreak] (2 + (r'.takeWhile isIndent).length)
      | d :: _ => onward [.part (.special (if isAsciiPunctuation d then [d] else [c, d]))] 2
    | '\x60' =>
      match codeSpan (c :: r) with
      | (n, some s) => onward [.part (.code (codeText s))] (n + s.length + n)
      | (n, none) => plainly n
    | '~' =>
      let n := 1 + (r.takeWhile (· == '~')).length
      if n < 2 then plainly 1
      else onward (strikeItems before ((r.drop (n - 1)).headD ' ') n) n
    | '*' | '_' =>
      let n := 1 + (r.takeWhile (· == c)).length
      onward (emphasisItems c before ((r.drop (n - 1)).headD ' ') n) n
    | '[' =>
      match link? st r ns.tail with
      | some l =>
        onward (.part (.linkOpens l.address l.title)
          :: (inside '[' (r.take l.label) (ns.tail.take l.label)).map .part
          ++ [.part .linkCloses]) (l.length + 1)
      | none => plainly 1
    | '!' =>
      match r with
      | '[' :: r' =>
        match image? st r' (ns.drop 2) with
        | some l =>
          let parts := inside ' ' (r'.take l.label) ((ns.drop 2).take l.label)
          onward [.part (.image l.address l.title (parts.flatMap Inline.alternative))]
            (l.length + 2)
        | none => plainly 1
      | _ => plainly 1
    | '<' =>
      match (angled? r).bind fun i => (angledAddress? i).map fun a => (i, a) with
      | some (i, a) =>
        onward [.part (.linkOpens a []), .part (.text (Address.display i)), .part .linkCloses]
          (i.length + 2)
      | none =>
        match tagLength? st (c :: r) with
        | some n => onward [.part (.html ((c :: r).take n))] n
        | none => plainly 1
    | '&' =>
      match lineReference? r with
      | some (s, n) => onward [.part (.special s)] (n + 1)
      | none => plainly 1
    | _ => plainly 1

/-- The parts of a text. -/
def inlines (st : Setting) (s : Text) : List Inline :=
  resolve (itemsFrom st (s.length + 1) ' ' [] s (tokenLengths st s))

end Docblock.Markdown
