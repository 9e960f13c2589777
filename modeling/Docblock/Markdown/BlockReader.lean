/-
# Docblock.Markdown.BlockReader — from lines to blocks.

The lines of a container are read from the first one on.  At each line the sorts of block are tried
in a fixed order; the first that begins there takes as many lines as belong to it.  Quotes and list
items are containers themselves: their lines are read with the marker taken away or with a greater
indentation.  A paragraph goes on over lines that no other block interrupts, even where they leave
the container; such lines can only continue the paragraph.
-/
import Docblock.Markdown.Opening
import Docblock.Markdown.TableReader

namespace Docblock.Markdown

/-- What a container says about its lines. -/
structure Frame where
  /-- HTML is kept as it is. -/
  html : Bool
  /-- The column at which the content of the container begins. -/
  indent : Nat := 0
  /-- The column at which the list around the container begins, or none. -/
  listIndent : Option Nat := none
  /-- How many more containers may be nested. -/
  depth : Nat := 20
  deriving DecidableEq, Repr

namespace Frame

/-- Whether a line is indented so far that it is code. -/
def isCode (f : Frame) (l : Line) : Bool := f.indent + 4 ≤ l.indent

/-- Whether a line begins before the content of the container. -/
def isOutside (f : Frame) (l : Line) : Bool := l.indent < f.indent

/-- Whether a line begins so far right of its list that it only continues a paragraph. -/
def isDeepContinuation (f : Frame) (l : Line) : Bool :=
  match f.listIndent with
  | some n => n + 4 ≤ l.indent && l.indent < f.indent
  | none => false

end Frame

/-! ## What ends a paragraph -/

/-- The marker of the list that begins on a line.  Inside a paragraph, only a list that begins with
the number one or a bullet, and with text, can begin. -/
def listAt? (f : Frame) (inParagraph : Bool) (l : Line) : Option Marker :=
  if f.isCode l || f.isDeepContinuation l then none
  else
    (marker? l.content).filter fun m =>
      !(inParagraph && !f.isOutside l)
        || ((m.number.all (· == 1)) && !(l.content.drop m.length).all isIndent)

/-- The table that begins on the first of some lines: its head and alignments. -/
def tableAt? (f : Frame) (ls : List Line) : Option (List Text × List Alignment) :=
  match ls with
  | l :: m :: _ =>
    if f.isOutside m || f.isCode m || !isRuler m.content || f.isCode l
        || !l.content.contains '|' then none
    else
      match alignments? m.content with
      | some columns =>
        let head := cells l.content
        if head.isEmpty || head.length != columns.length then none else some (head, columns)
      | none => none
  | _ => none

/-- Whether a block that may stand right behind a quote begins on a line. -/
def interruptsQuote (f : Frame) (inParagraph : Bool) (l : Line) : Bool :=
  (!f.isCode l
      && ((fence? l.content).isSome || Text.beginsWith ['>'] l.content || isRule l.content
        || (f.html && (HtmlBlock.ofLine? l.content).any (·.interrupts))
        || (heading? l.content).isSome))
    || (listAt? f inParagraph l).isSome

/-- Whether a block that ends a list begins on a line. -/
def interruptsList (f : Frame) (l : Line) : Bool :=
  !f.isCode l
    && ((fence? l.content).isSome || Text.beginsWith ['>'] l.content || isRule l.content)

/-- Whether a block that ends a paragraph begins on the first of some lines. -/
def interruptsText (f : Frame) (inParagraph : Bool) (ls : List Line) : Bool :=
  (tableAt? f ls).isSome
    || match ls with
      | l :: _ => interruptsQuote f inParagraph l
      | [] => false

/-! ## Text -/

/-- The number of lines that a paragraph takes behind its first one. -/
def paragraphLines (f : Frame) : List Line → Nat
  | [] => 0
  | l :: ls =>
    if l.isEmpty then 0
    else if f.isCode l || l.indent < 0 || !interruptsText f true (l :: ls) then
      1 + paragraphLines f ls
    else 0

/-- The number of lines before the one that underlines the text above it, and the level of the
heading it makes, behind the first line. -/
def underlined? (f : Frame) : List Line → Option (Nat × Nat)
  | [] => none
  | l :: ls =>
    let further := (underlined? f ls).map fun (n, level) => (n + 1, level)
    if l.isEmpty then none
    else if f.isCode l then further
    else
      match if f.isOutside l then none else underline? l.content with
      | some level => some (0, level)
      | none => if l.indent < 0 || !interruptsText f true (l :: ls) then further else none

/-- The number of lines behind the first one that a definition may go on over. -/
def definitionLines (f : Frame) : List Line → Nat
  | [] => 0
  | l :: ls =>
    if l.isEmpty then 0
    else if f.isCode l || l.indent < 0 || !interruptsText f false (l :: ls) then
      1 + definitionLines f ls
    else 0

/-- The contents of lines with the line feeds that end them. -/
def contents (ls : List Line) : Text :=
  ls.flatMap fun l => l.content ++ if l.ended then ['\n'] else []

/-! ## Code and HTML -/

/-- The number of lines of indented code: up to the last one that is indented and not empty. -/
def codeLines (f : Frame) : List Line → Nat
  | [] => 0
  | l :: ls =>
    if l.isEmpty then
      let n := codeLines f ls
      if n = 0 then 0 else n + 1
    else if f.isCode l then 1 + codeLines f ls
    else 0

/-- The number of lines inside a fence, and whether a line behind them closes it. -/
def fenceLines (f : Frame) (fence : Fence) : List Line → Nat × Bool
  | [] => (0, false)
  | l :: ls =>
    if !l.isEmpty && f.isOutside l then (0, false)
    else if !f.isCode l && fence.closedBy l.content then (0, true)
    else ((fenceLines f fence ls).1 + 1, (fenceLines f fence ls).2)

/-- The number of lines of an HTML block behind its first one. -/
def htmlLines (f : Frame) (h : HtmlBlock) : List Line → Nat
  | [] => 0
  | l :: ls =>
    if f.isOutside l then 0
    else if h.endsWith l.content then if l.content.isEmpty then 0 else 1
    else 1 + htmlLines f h ls

/-! ## Quotes -/

/-- A line behind its quote marker and one space. -/
def unquote (l : Line) : Line :=
  let column := (l.indent + 1).toNat
  let r := l.raw.drop (l.shift + 1)
  let (skip, offset, space) : Nat × Nat × Nat :=
    match r with
    | ' ' :: _ => (1, 0, 1)
    | '\t' :: _ => if (l.base + column) % 4 == 3 then (1, 0, 1) else (0, 1, 1)
    | _ => (0, 0, 0)
  let start := column + skip
  let raw := r.drop skip
  { raw
    shift := (raw.takeWhile isIndent).length
    indent := (Line.columnBehind start (l.base + offset) raw : Int) - start
    base := column + space
    ended := l.ended }

/-- The lines of a quote, marked ones without their marker and others as mere continuations.
`empty` says that the line before was marked and had no content. -/
def quoteLines (f : Frame) (empty : Bool) : List Line → List Line
  | [] => []
  | l :: ls =>
    if l.isEmpty then []
    else if Text.beginsWith ['>'] l.content && !f.isOutside l then
      unquote l :: quoteLines f (unquote l).isEmpty ls
    else if empty || interruptsQuote f false l then []
    else { l with indent := -1 } :: quoteLines f false ls

/-! ## Tables -/

/-- The rows of a table. -/
def tableRows (f : Frame) (columns : Nat) (filled : Int) : List Line → List (List Text)
  | [] => []
  | l :: ls =>
    if f.isOutside l || interruptsQuote f false l || Text.blank l.content || f.isCode l then []
    else
      let row := cells l.content
      let filled := filled + columns - row.length
      if maxFilled < filled then []
      else fitRow columns row :: tableRows f columns filled ls

/-! ## Blocks -/

/-- A block that needs no container, at the first of some lines, and the number of lines it takes.
The parts are tried in order of priority; containers come before or after. -/
def codeAt? (f : Frame) (ls : List Line) : Option (Block × Nat) :=
  match ls with
  | [] => none
  | l :: rest =>
    if f.isCode l then
      let n := 1 + codeLines f rest
      some (.code (Line.join (4 + f.indent) (ls.take n) ++ ['\n']), n)
    else
      (fence? l.content).map fun fence =>
        let (n, closed) := fenceLines f fence rest
        (.fenced fence.info (Line.whole l.indent.toNat (rest.take n)),
          1 + n + if closed then 1 else 0)

/-- The block of text at the first of some lines that no other sort of block begins, and the number
of lines it takes. -/
def textAt (f : Frame) (l : Line) (rest : List Line) : Block × Nat :=
  match underlined? f rest with
  | some (n, level) =>
    (.heading level (Text.trim (Line.join f.indent ((l :: rest).take (n + 1)))), n + 2)
  | none =>
    let n := 1 + paragraphLines f rest
    (.paragraph (Text.trim (Line.join f.indent ((l :: rest).take n))), n)

/-- The definition, block of HTML or heading at the first of some lines, or else the text there. -/
def plainAt (f : Frame) (l : Line) (rest : List Line) : Block × Nat :=
  let definition := definition? (contents (l :: rest.take (definitionLines f rest)))
  match definition, if f.html then HtmlBlock.ofLine? l.content else none, heading? l.content with
  | some (d, n), _, _ => (.definition d, n)
  | none, some h, _ =>
    let n := if h.endsWith l.content then 1 else 1 + htmlLines f h rest
    (.html (Line.whole f.indent ((l :: rest).take n)), n)
  | none, none, some (level, s) => (.heading level s, 1)
  | none, none, none => textAt f l rest

/-- The blocks read so far, the number of lines they took, and whether no empty line came before the
last of them. -/
structure Progress where
  blocks : List Block := []
  lines : Nat := 0
  tight : Bool := true
  deriving Inhabited

mutual

/-- Read the blocks of a container.  `gap` says that an empty line came before.  Reading stops at a
line that begins before the content of the container. -/
def blocksFrom : Nat → Frame → Bool → Bool → List Line → Progress
  | 0, _, _, tight, _ => { tight }
  | fuel + 1, f, gap, tight, all =>
    let ls := all.dropWhile Line.isEmpty
    let skipped := all.length - ls.length
    match ls with
    | [] => { lines := skipped, tight }
    | l :: _ =>
      if f.isOutside l then { lines := skipped, tight }
      else if f.depth = 0 then { lines := all.length, tight }
      else
        let (block, n) := blockAt fuel f ls
        let behind := ls.drop n
        let endsEmpty := (ls.take n).getLast?.any Line.isEmpty
        let nextEmpty := behind.head?.any Line.isEmpty
        let rest := if nextEmpty then behind.tail else behind
        let p := blocksFrom fuel f (gap || endsEmpty || nextEmpty) (!gap) rest
        { blocks := block :: p.blocks
          lines := skipped + n + (if nextEmpty then 1 else 0) + p.lines
          tight := p.tight }

/-- The block at the first of some lines, and the number of lines it takes. -/
def blockAt : Nat → Frame → List Line → Block × Nat
  | 0, _, ls => (.paragraph [], ls.length)
  | _, _, [] => (.paragraph [], 0)
  | fuel + 1, f, l :: rest =>
    match tableAt? f (l :: rest) with
    | some (head, columns) =>
      let rows := tableRows f columns.length 0 (rest.drop 1)
      (.table { columns, head, rows }, 2 + rows.length)
    | none =>
      match codeAt? f (l :: rest) with
      | some found => found
      | none =>
        if Text.beginsWith ['>'] l.content then
          let inner := unquote l :: quoteLines f (unquote l).isEmpty rest
          let p := blocksFrom fuel
            { f with indent := 0, depth := f.depth - 1 } false true inner
          (.quote p.blocks, p.lines)
        else if isRule l.content then (.rule, 1)
        else
          match listAt? f false l with
          | some m =>
            let (items, lines, tight) := itemsAt fuel f m false m (l :: rest)
            (.list m.number tight items, lines)
          | none => plainAt f l rest

/-- The items of a list from one on, the number of lines they take, and whether the list is tight.
`first` is the marker of the first item, `m` that of the item at hand, and `gap` says that the item
before ended with an empty line. -/
def itemsAt : Nat → Frame → Marker → Bool → Marker → List Line → List (List Block) × Nat × Bool
  | 0, _, _, _, _, ls => ([], ls.length, true)
  | _, _, _, _, _, [] => ([], 0, true)
  | fuel + 1, f, first, gap, m, l :: rest =>
    let initial := l.indent.toNat + m.length
    let after := l.content.drop m.length
    let column := Line.columnBehind initial l.base after
    let spaces := (after.takeWhile isIndent).length
    let empty := spaces = after.length
    let width := if empty || initial + 4 < column then 1 else column - initial
    let item := { l with shift := l.shift + m.length + spaces, indent := (column : Int) }
    let p : Progress :=
      if empty && rest.head?.all Line.isEmpty then { lines := min 2 (rest.length + 1) }
      else
        blocksFrom fuel
          { f with
            indent := initial + width, listIndent := some f.indent, depth := f.depth - 2 }
          false true (item :: rest)
    let n := max 1 p.lines
    let tight := p.tight && !gap
    let endsEmpty := 1 < n && ((l :: rest).take n).getLast?.any Line.isEmpty
    let stop := ([p.blocks], n, tight)
    match (l :: rest).drop n with
    | [] => stop
    | l' :: rest' =>
      if f.isOutside l' || f.isCode l' || interruptsList f l' then stop
      else
        match (marker? l'.content).filter (·.continues first) with
        | some m' =>
          let (items, lines, tight') := itemsAt fuel f first endsEmpty m' (l' :: rest')
          (p.blocks :: items, n + lines, tight && tight')
        | none => stop

end

/-- The blocks of a whole text. -/
def blocks (html : Bool) (s : Text) : List Block :=
  let ls := Line.ofSource s
  (blocksFrom (32 * (ls.length + 2)) { html } false true ls).blocks

end Docblock.Markdown
