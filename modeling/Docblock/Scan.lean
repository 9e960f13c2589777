/-
# Docblock.Scan — from a source to its comments.

A scan takes a source apart and makes one comment of each block comment, together with the code
behind it.  A source without block comments gives one empty comment that carries all of the code.
Line ends are unified first; every offset refers to the source after that.
-/
import Docblock.Comment
import Docblock.Layout
import Docblock.Log.Record
import Docblock.Number.Numeral

namespace Docblock

/-- Write every line end as a single line feed. -/
def unifyNewlines (s : Text) : Text :=
  Text.replace ['\r'] ['\n'] (Text.replace ['\r', '\n'] ['\n'] s)

namespace Comment

/-- A comment with the code behind it, which stands at `place`; blank code is no code. -/
def withCode (blocks : List OwnerBlock) (place : Nat) (code : Text) (c : Comment) : Comment :=
  let trimmed := Text.trim code
  if trimmed.isEmpty then c
  else
    let offset := place + (code.length - (Text.trimStart code).length)
    { c with
      code := some trimmed
      declaration := Declaration.ofCode? trimmed offset blocks }

/-- The comment that a block comment holds. -/
def ofBlock (st : Style) (b : BlockComment) : Comment :=
  { ofText st (withoutGutter b.body) with ignored := b.marked }

end Comment

namespace Layout

/-- The comments of block comments with the code behind each; the first opening marker stands at
`place`. -/
def commentsFrom (st : Style) (blocks : List OwnerBlock) (place : Nat) :
    List (BlockComment × Text) → List Comment
  | [] => []
  | (b, code) :: ps =>
    (Comment.ofBlock st b).withCode blocks (place + b.length) code
      :: commentsFrom st blocks (place + b.length + code.length) ps

/-- The comments of a layout, given the owner blocks of its source. -/
def comments (st : Style) (blocks : List OwnerBlock) (l : Layout) : List Comment :=
  match l.parts with
  | [] => [({} : Comment).withCode blocks 0 l.lead]
  | ps => commentsFrom st blocks l.lead.length ps

/-- Where the body of an unclosed block comment starts, among block comments the first of which
opens at `place`. -/
def unclosedFrom? (place : Nat) : List (BlockComment × Text) → Option Nat
  | [] => none
  | (b, code) :: ps =>
    if b.closed then unclosedFrom? (place + b.length + code.length) ps
    else some (place + 2 + b.markLength)

/-- Where the body of the unclosed block comment of a layout starts, if there is one. -/
def unclosed? (l : Layout) : Option Nat := unclosedFrom? l.lead.length l.parts

end Layout

/-- The outcome of a scan: the comments, and what was reported on the way. -/
structure Scan where
  comments : List Comment
  records : List LogRecord
  deriving DecidableEq, Repr

namespace Scan

/-- The part of the program that scans. -/
def part : String := "parser.scanner"

/-- The warning about a block comment that is left open. -/
def unclosedWarning (offset : Nat) : LogRecord :=
  .of .warning part ("Unterminated block comment at offset ".toList ++ Numeral.ofNat offset
    ++ "; treating the rest of the source as comment".toList)

/-- The closing report, with the numbers of comments and owner blocks. -/
def summary (comments blocks : Nat) : LogRecord :=
  .of .debug part ("Parsed ".toList ++ Numeral.ofNat comments ++ " comment(s) with ".toList
    ++ Numeral.ofNat blocks ++ " scope block(s)".toList)

/-- Scan a source, with the owner blocks that `blocksIn` finds in it. -/
def ofSourceWith (st : Style) (blocksIn : Text → List OwnerBlock) (source : Text) : Scan :=
  let s := unifyNewlines source
  let blocks := blocksIn s
  let layout := Layout.ofSource s
  let comments := layout.comments st blocks
  { comments
    records := (layout.unclosed?.map unclosedWarning).toList
      ++ [summary comments.length blocks.length] }

/-- Scan a source. -/
def ofSource (st : Style) (source : Text) : Scan := ofSourceWith st OwnerBlock.inSource source

end Scan

end Docblock
