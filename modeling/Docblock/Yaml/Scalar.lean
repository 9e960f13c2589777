/-
# Docblock.Yaml.Scalar — the three ways of writing a text.

A text stands plainly, in quotes, or as an indented block of lines.  Where a plain or a quoted text
goes over several lines it is folded: a single line break becomes a space, of several the first is
dropped.
-/
import Docblock.Number.Numeral
import Docblock.Yaml.Cursor

namespace Docblock.Yaml

/-! ## Folding -/

/-- The breaks of the blank lines from the beginning of a line on, and the first place behind them
that is not blank.  Reading stops where a document ends. -/
def blankLines (isBlank : Char → Bool) : Nat → Cursor → Text × Cursor
  | 0, c => ([], c)
  | fuel + 1, c =>
    if c.atSeparator then ([], c)
    else
      let d := c.skipWhile isBlank
      if isBreak d.peek then
        let (b, e) := d.lineBreak
        let (more, f) := blankLines isBlank fuel e
        (b ++ more, f)
      else ([], d)

/-- The breaks of the blank lines below this one. -/
def blankLinesBelow (isBlank : Char → Bool) (c : Cursor) : Text × Cursor :=
  blankLines isBlank (c.rest.length + 1) c

/-- What a line break and the breaks of the blank lines below it are folded to. -/
def folded (first more : Text) : Text :=
  if first ≠ ['\n'] then first ++ more else if more.isEmpty then [' '] else more

/-! ## Plain texts -/

/-- Whether a character delimits the parts of a flow collection. -/
def isFlowMark (c : Char) : Bool := ",[]\x7b\x7d".toList.contains c

/-- The part of a plain text that stands at the front: up to a gap, a colon before a gap, and within
a flow collection up to one of its marks. -/
def plainRun (flow : Bool) : Text → Text
  | [] => []
  | c :: r =>
    let next := r.headD '\x00'
    if isGap c || (c == ':' && (isGap next || (flow && isFlowMark next)))
      || (flow && (c == '?' || isFlowMark c)) then []
    else c :: plainRun flow r

/-- What stands between two parts of a plain text. -/
structure PlainGap where
  text : Text
  /-- Whether the line changes. -/
  newLine : Bool
  behind : Cursor

/-- The gap under the cursor; it is empty where a document ends. -/
def plainGap (c : Cursor) : PlainGap :=
  let (spaces, d) := c.span (· == ' ')
  if isBreak d.peek then
    let (b, e) := d.lineBreak
    let (more, f) := blankLinesBelow (· == ' ') e
    { text := if f.atSeparator then [] else folded b more, newLine := true, behind := f }
  else { text := spaces, newLine := false, behind := d }

/-- A plain text from one of its parts on, whether the line changes behind it, and the place
there. -/
def plainFrom (flow : Bool) (indent : Nat) : Nat → Cursor → Text × Bool × Cursor
  | 0, c => ([], false, c)
  | fuel + 1, c =>
    let run := if c.peek == '#' then [] else plainRun flow c.rest
    if run.isEmpty then ([], false, c)
    else
      let gap := plainGap (c.skip run.length)
      let d := gap.behind
      if gap.text.isEmpty || d.peek == '#' || (!flow && d.column < indent) then
        (run, gap.newLine, d)
      else
        match plainFrom flow indent fuel d with
        | ([], _, e) => (run, gap.newLine, e)
        | (t, newLine, e) => (run ++ gap.text ++ t, newLine, e)

/-- The plain text under the cursor.  Outside flow collections its lines are indented by at least
`indent`. -/
def plain (flow : Bool) (indent : Nat) (c : Cursor) : Text × Bool × Cursor :=
  plainFrom flow indent (c.rest.length + 1) c

/-! ## Quoted texts -/

/-- What a backslash and the given character stand for. -/
def escaped? : Char → Option Char
  | '0' => some '\x00'
  | 'a' => some '\x07'
  | 'b' => some '\x08'
  | 't' | '\t' => some '\t'
  | 'n' => some '\n'
  | 'v' => some '\x0b'
  | 'f' => some '\x0c'
  | 'r' => some '\r'
  | 'e' => some '\x1b'
  | ' ' => some ' '
  | '\x22' => some '\x22'
  | '\\' => some '\\'
  | '/' => some '/'
  | 'N' => some '\x85'
  | '_' => some '\xa0'
  | 'L' => some '\u2028'
  | 'P' => some '\u2029'
  | _ => none

/-- How many hexadecimal digits follow a character behind a backslash. -/
def codeLength? : Char → Option Nat
  | 'x' => some 2
  | 'u' => some 4
  | 'U' => some 8
  | _ => none

/-- The character of the given number.  Halves of pairs of units are no characters, and are shown by
a replacement. -/
def character (n : Nat) : Except Fault Char :=
  if 0x7FFFFFFF < n then .error .hugeCharacter
  else if 0x10FFFF < n then .error .noSuchCharacter
  else if 0xD800 ≤ n && n ≤ 0xDFFF then .ok '\ufffd'
  else .ok (Char.ofNat n)

/-- What a backslash and the characters behind it stand for.  A line break behind it vanishes, with
the blanks around it. -/
def quotedEscape (c : Cursor) : Except Fault (Text × Cursor) :=
  let d := c.next
  match escaped? d.peek, codeLength? d.peek with
  | some x, _ => .ok ([x], d.next)
  | none, some n =>
    match (d.next.rest.take n).mapM Numeral.hexValue? with
    | some ds =>
      if ds.length = n then do return ([← character (Numeral.ofDigits 16 ds)], d.next.skip n)
      else .error .badEscape
    | none => .error .badEscape
  | none, none =>
    if isBreak d.peek then
      let (more, e) := blankLinesBelow isIndent d.lineBreak.2
      if e.atSeparator then .error .unclosedQuote else .ok (more, e)
    else .error .badEscape

/-- The blanks under the cursor, folded when a line break is among them. -/
def quotedGap (c : Cursor) : Except Fault (Text × Cursor) :=
  let (blanks, d) := c.span isIndent
  if isBreak d.peek then
    let (b, e) := d.lineBreak
    let (more, f) := blankLinesBelow isIndent e
    if f.atSeparator then .error .unclosedQuote else .ok (folded b more, f)
  else .ok (blanks, d)

/-- The inside of a quoted text from some place on, and the place behind the closing quote. -/
def quotedFrom (double : Bool) : Nat → Cursor → Except Fault (Text × Cursor)
  | 0, _ => .error .unclosedQuote
  | fuel + 1, c =>
    let go (part : Text) (d : Cursor) : Except Fault (Text × Cursor) := do
      let (t, e) ← quotedFrom double fuel d
      return (part ++ t, e)
    match c.rest with
    | [] => .error .unclosedQuote
    | x :: _ =>
      if x == '\x27' && !double then
        if c.next.peek == '\x27' then go ['\x27'] (c.skip 2) else .ok ([], c.next)
      else if x == '\x22' && double then .ok ([], c.next)
      else if x == '\\' && double then do
        let (t, d) ← quotedEscape c
        go t d
      else if isGap x then do
        let (t, d) ← quotedGap c
        go t d
      else go [x] c.next

/-- The quoted text whose opening quote is under the cursor. -/
def quoted (double : Bool) (c : Cursor) : Except Fault (Text × Cursor) :=
  quotedFrom double (c.rest.length + 1) c.next

/-! ## Blocks of lines -/

/-- What becomes of the line breaks at the end of a block. -/
inductive Chomping where
  /-- None is kept. -/
  | strip
  /-- One is kept. -/
  | clip
  /-- All are kept. -/
  | keep
  deriving DecidableEq, Repr, Inhabited

/-- The first line of a block: what to do at its end, and its indentation when it is given. -/
structure BlockHeader where
  chomping : Chomping
  indent : Option Nat
  deriving DecidableEq, Repr, Inhabited

/-- How to chomp at the given mark. -/
def chomping? : Char → Option Chomping
  | '+' => some .keep
  | '-' => some .strip
  | _ => none

/-- The mark for chomping under the cursor, if there is one. -/
def readChomping (c : Cursor) : Chomping × Cursor :=
  match chomping? c.peek with
  | some how => (how, c.next)
  | none => (.clip, c)

/-- The digit for the indentation under the cursor, if there is one.  It is not zero. -/
def readIndent (c : Cursor) : Except Fault (Option Nat × Cursor) :=
  if c.peek == '0' then .error .badBlockHeader
  else if c.peek.isDigit then .ok (some (c.peek.toNat - 0x30), c.next)
  else .ok (none, c)

/-- The header behind the mark of a block; its two parts come in either order. -/
def blockHeader (c : Cursor) : Except Fault (BlockHeader × Cursor) := do
  let (h, d) ←
    if (chomping? c.peek).isSome then
      let (chomping, d) := readChomping c
      let (indent, d) ← readIndent d
      Except.ok (BlockHeader.mk chomping indent, d)
    else
      let (indent, d) ← readIndent c
      let (chomping, d) := if indent.isSome then readChomping d else (.clip, d)
      Except.ok (BlockHeader.mk chomping indent, d)
  if !isStop d.peek then .error .badBlockHeader
  else
    match d.closeLine? with
    | some e => .ok (h, e)
    | none => .error .badBlockHeader

/-- The breaks of blank lines in a block indented by `indent`, and the place behind them and behind
the indentation of the line there. -/
def blockBreaks (indent : Nat) : Nat → Cursor → Text × Cursor
  | 0, c => ([], c)
  | fuel + 1, c =>
    let spaces := (c.rest.takeWhile (· == ' ')).length
    let d := c.skip (min spaces (indent - c.column))
    if isBreak d.peek then
      let (b, e) := d.lineBreak
      let (more, f) := blockBreaks indent fuel e
      (b ++ more, f)
    else ([], d)

/-- The breaks of the blank lines at the beginning of a block, the greatest width of the spaces on
them and in front of the first line that is not blank, and the place there. -/
def leadingBreaks : Nat → Cursor → Text × Nat × Cursor
  | 0, c => ([], 0, c)
  | fuel + 1, c =>
    let d := c.skipSpaces
    if isBreak d.peek then
      let (b, e) := d.lineBreak
      let (more, width, f) := leadingBreaks fuel e
      (b ++ more, max d.column width, f)
    else ([], d.column, d)

/-- The lines of a block from one of them on; `breaks` are those in front of it.  When folding, a
single break between two lines that begin with no blank becomes a space. -/
def blockLines (fold : Bool) (chomping : Chomping) (indent : Nat) :
    Nat → Text → Cursor → Text × Cursor
  | 0, _, c => ([], c)
  | fuel + 1, breaks, c =>
    let indented (c : Cursor) : Bool := c.column == indent && !c.rest.isEmpty
    let flush (c : Cursor) : Bool := !isIndent c.peek
    if !indented c then (if chomping = .keep then breaks else [], c)
    else
      let (line, d) := c.span (!isLineEnd ·)
      let (b, d) := d.lineBreak
      let (below, e) := blockBreaks indent (d.rest.length + 1) d
      if indented e then
        let glue :=
          if fold && b == ['\n'] && flush c && flush e then (if below.isEmpty then [' '] else [])
          else b
        let (more, f) := blockLines fold chomping indent fuel below e
        (breaks ++ line ++ glue ++ more, f)
      else
        let tail : Text :=
          match chomping with
          | .strip => []
          | .clip => b
          | .keep => b ++ below
        (breaks ++ line ++ tail, e)

/-- The block whose mark is under the cursor; its lines are indented by at least `least`. -/
def block (fold : Bool) (least : Nat) (c : Cursor) : Except Fault (Text × Cursor) := do
  let (h, d) ← blockHeader c.next
  let (indent, breaks, e) :=
    match h.indent with
    | some n =>
      let indent := least + n - 1
      (indent, blockBreaks indent (d.rest.length + 1) d)
    | none =>
      let (breaks, width, e) := leadingBreaks (d.rest.length + 1) d
      (max least width, breaks, e)
  return blockLines fold h.chomping indent (e.rest.length + 1) breaks e

end Docblock.Yaml
