/-
# Docblock.Yaml.Property — anchors, tags and directives.

What may stand in front of a node, and in front of a document.
-/
import Docblock.Number.Numeral
import Docblock.Text.Utf8
import Docblock.Yaml.Cursor
import Docblock.Yaml.Token

namespace Docblock.Yaml

/-- Whether a character may stand in a name. -/
def isNameCharacter (c : Char) : Bool := c.isAlphanum || c == '-' || c == '_'

/-! ## Anchors -/

/-- Whether a name may end at a character. -/
def endsName (c : Char) : Bool := isGap c || "?:,]\x7d%@\x60".toList.contains c

/-- The name behind the mark of an anchor or an alias. -/
def anchorName (c : Cursor) : Except Fault (Text × Cursor) :=
  let (name, d) := c.next.span isNameCharacter
  if name.isEmpty || !endsName d.peek then .error .badAnchor else .ok (name, d)

/-! ## Tags -/

/-- Whether a character may stand in a tag. -/
def isTagCharacter (c : Char) : Bool :=
  isNameCharacter c || ";/?:@&=+$,.!~*'()[]%".toList.contains c

/-- The text of octets that were written as escapes. -/
def ofOctets (os : Octets) : Except Fault Text :=
  match Utf8.decode os with
  | .ok s => .ok s
  | .error _ => .error .badTag

/-- A tag with its escapes replaced by what they stand for; `os` are the octets of escapes just
read. -/
def unescapeTag : Octets → Text → Except Fault Text
  | os, '%' :: a :: b :: r =>
    match Numeral.hexValue? a, Numeral.hexValue? b with
    | some x, some y => unescapeTag (os ++ [UInt8.ofNat (16 * x + y)]) r
    | _, _ => .error .badTag
  | _, ['%', _] => .error .badTag
  | _, ['%'] => .error .badTag
  | os, c :: r => do return (← ofOctets os) ++ c :: (← unescapeTag [] r)
  | os, [] => ofOctets os

/-- The part of a tag behind its handle. -/
def tagSuffix (c : Cursor) : Except Fault (Text × Cursor) :=
  let (run, d) := c.span isTagCharacter
  if run.isEmpty then .error .badTag
  else do return (← unescapeTag [] run, d)

/-- The handle of a tag: one exclamation mark, or a name between two. -/
def tagHandle (c : Cursor) : Except Fault (Text × Cursor) :=
  if c.peek != '!' then .error .badTag
  else if c.next.peek == ' ' then .ok (['!'], c.next)
  else
    let (name, d) := c.next.span isNameCharacter
    if d.peek == '!' then .ok ('!' :: name ++ ['!'], d.next) else .error .badTag

/-- A tag: its handle, when it has one, and the rest of it. -/
def tag (c : Cursor) : Except Fault (Token × Cursor) := do
  let d := c.next
  let (t, e) ←
    if d.peek == '<' then
      let (suffix, e) ← tagSuffix d.next
      if e.peek == '>' then .ok (Token.tag none suffix, e.next) else .error .badTag
    else if isGap d.peek then .ok (Token.tag none ['!'], d)
    else
      let named := (d.rest.takeWhile (!isStop ·)).contains '!'
      let (handle, e) ← if named then tagHandle c else .ok (['!'], d)
      let (suffix, e) ← tagSuffix e
      .ok (Token.tag (some handle) suffix, e)
  if isStop e.peek then .ok (t, e) else .error .badTag

/-! ## Directives -/

/-- A run of digits. -/
def versionNumber (c : Cursor) : Except Fault (Nat × Cursor) :=
  let (ds, d) := c.span Char.isDigit
  if ds.isEmpty then .error .badDirective
  else .ok (Numeral.ofDigits 10 (ds.map fun x => x.toNat - 0x30), d)

/-- What a directive of the given name says. -/
def directiveOf (name : Text) (c : Cursor) : Except Fault (Directive × Cursor) :=
  if name = "YAML".toList then do
    let (main, d) ← versionNumber c.skipSpaces
    if d.peek != '.' then .error .badDirective
    else
      let (_, d) ← versionNumber d.next
      if isStop d.peek then .ok (.version main, d) else .error .badDirective
  else if name = "TAG".toList then do
    let (handle, d) ← tagHandle c.skipSpaces
    if d.peek != ' ' then .error .badDirective
    else
      let (uri, d) ← tagSuffix d.skipSpaces
      if isStop d.peek then .ok (.shortTag handle uri, d) else .error .badDirective
  else .ok (.reserved, c.skipWhile (!isLineEnd ·))

/-- A directive with the whole of its line. -/
def directive (c : Cursor) : Except Fault (Directive × Cursor) := do
  let (name, d) := c.next.span isNameCharacter
  if name.isEmpty || !isStop d.peek then .error .badDirective
  else
    let (what, d) ← directiveOf name d
    match d.closeLine? with
    | some e => .ok (what, e)
    | none => .error .badDirective

end Docblock.Yaml
