/-
# Docblock.Yaml.TokenReader — reading the tokens of a document.

Tokens are read from left to right.  A colon shows only afterwards that a key began some way before
it, so the reader remembers for every level of flow collections where that may have been, and puts
the token for the key there.  The columns at which block collections began are kept on a stack; a
token less indented than the innermost of them ends it.
-/
import Docblock.Yaml.Property
import Docblock.Yaml.Scalar

namespace Docblock.Yaml

/-- A place at which a key may have begun. -/
structure PossibleKey where
  /-- The nesting of flow collections there. -/
  depth : Nat
  /-- The number of tokens in front of it. -/
  tokens : Nat
  /-- Whether nothing but a key may stand there. -/
  required : Bool
  place : Cursor
  deriving Repr, Inhabited

/-- The state of reading. -/
structure TokenReader where
  cursor : Cursor
  /-- The tokens read so far, the last one first. -/
  tokens : List Token
  /-- The number of flow collections that are open. -/
  depth : Nat
  /-- The columns of the block collections that are open, the innermost first. -/
  columns : List Nat
  /-- Whether a key may begin here without a mark of its own. -/
  keyAllowed : Bool
  keys : List PossibleKey
  deriving Repr, Inhabited

namespace TokenReader

/-- The state at the beginning of a document. -/
def start (s : Text) : TokenReader :=
  { cursor := .start s, tokens := [], depth := 0, columns := [], keyAllowed := true, keys := [] }

/-- Whether a flow collection is open. -/
def inFlow (r : TokenReader) : Bool := r.depth != 0

/-- Add a token. -/
def add (t : Token) (r : TokenReader) : TokenReader := { r with tokens := t :: r.tokens }

/-- Put tokens, the last one first, behind the first `n`. -/
def insert (n : Nat) (ts : List Token) (r : TokenReader) : TokenReader :=
  let k := r.tokens.length - n
  { r with tokens := r.tokens.take k ++ ts ++ r.tokens.drop k }

/-- The least column at which the lines of a text in the innermost collection may begin. -/
def innerColumn (r : TokenReader) : Nat :=
  match r.columns with
  | [] => 0
  | n :: _ => n + 1

/-! ## Block collections -/

/-- End the block collections that are indented by `column` or more. -/
def closeFrom (column : Nat) (r : TokenReader) : TokenReader :=
  let n := (r.columns.takeWhile (column ≤ ·)).length
  { r with tokens := List.replicate n Token.blockEnd ++ r.tokens, columns := r.columns.drop n }

/-- End the block collections that are indented further than a token at `column`. -/
def unindent (column : Nat) (r : TokenReader) : TokenReader :=
  if r.inFlow then r else r.closeFrom (column + 1)

/-- End all block collections. -/
def closeAll (r : TokenReader) : TokenReader := if r.inFlow then r else r.closeFrom 0

/-- Whether a token at `column` begins a block collection inside the innermost one. -/
def opensBlock (column : Nat) (r : TokenReader) : Bool := r.innerColumn ≤ column

/-- Begin a block collection here with the given token, unless one began at this column. -/
def openBlock (t : Token) (r : TokenReader) : TokenReader :=
  let column := r.cursor.column
  if r.opensBlock column then { r.add t with columns := column :: r.columns } else r

/-! ## Possible keys -/

/-- Forget the places of keys to which no colon on this line can belong any more. -/
def dropStale (r : TokenReader) : Except Fault TokenReader :=
  let stale (k : PossibleKey) : Bool :=
    k.place.line != r.cursor.line || 1024 < r.cursor.index - k.place.index
  if r.keys.any fun k => stale k && k.required then .error .missingColon
  else .ok { r with keys := r.keys.filter (!stale ·) }

/-- Forget the place of a key at this level. -/
def dropKey (r : TokenReader) : Except Fault TokenReader :=
  if r.keys.any fun k => k.depth == r.depth && k.required then .error .missingColon
  else .ok { r with keys := r.keys.filter (·.depth != r.depth) }

/-- Remember that a key may begin here, where that is allowed. -/
def saveKey (r : TokenReader) : Except Fault TokenReader :=
  if r.keyAllowed then do
    let required := !r.inFlow && r.columns.head? == some r.cursor.column
    let key : PossibleKey :=
      { depth := r.depth, tokens := r.tokens.length, required, place := r.cursor }
    let r ← r.dropKey
    return { r with keys := key :: r.keys }
  else .ok r

/-! ## Single tokens -/

/-- A token of `n` characters. -/
def mark (t : Token) (n : Nat) (r : TokenReader) : TokenReader :=
  { r.add t with cursor := r.cursor.skip n }

/-- A token that is read behind the given place. -/
def take (t : Token) (c : Cursor) (r : TokenReader) : TokenReader := { r.add t with cursor := c }

/-- The end of the text. -/
def readFinish (r : TokenReader) : Except Fault TokenReader := do
  return (← r.closeAll.dropKey).add .finish

/-- A directive. -/
def readDirective (r : TokenReader) : Except Fault TokenReader := do
  let r ← r.closeAll.dropKey
  let (d, c) ← directive r.cursor
  return { r.take (.directive d) c with keyAllowed := false }

/-- A line that separates documents. -/
def readSeparator (t : Token) (r : TokenReader) : Except Fault TokenReader := do
  return { (← r.closeAll.dropKey).mark t 3 with keyAllowed := false }

/-- The beginning of a flow collection. -/
def readFlowStart (t : Token) (r : TokenReader) : Except Fault TokenReader := do
  let r := (← r.saveKey).mark t 1
  return { r with depth := r.depth + 1, keyAllowed := true }

/-- The end of a flow collection. -/
def readFlowEnd (t : Token) (r : TokenReader) : Except Fault TokenReader := do
  let r := (← r.dropKey).mark t 1
  return { r with depth := r.depth - 1, keyAllowed := false }

/-- A comma between the parts of a flow collection. -/
def readFlowEntry (r : TokenReader) : Except Fault TokenReader := do
  return { (← r.dropKey).mark .flowEntry 1 with keyAllowed := true }

/-- Begin a block collection for a mark that needs a new line in front of it. -/
def readyFor (t : Token) (r : TokenReader) : Except Fault TokenReader :=
  if r.inFlow then .ok r else if r.keyAllowed then .ok (r.openBlock t) else .error .misplaced

/-- A hyphen in front of an entry. -/
def readBlockEntry (r : TokenReader) : Except Fault TokenReader := do
  let r ← (← r.readyFor .blockSequence).dropKey
  return { r.mark .blockEntry 1 with keyAllowed := true }

/-- A question mark in front of a key. -/
def readKey (r : TokenReader) : Except Fault TokenReader := do
  let r ← (← r.readyFor .blockMapping).dropKey
  return { r.mark .key 1 with keyAllowed := !r.inFlow }

/-- A colon in front of a value. -/
def readValue (r : TokenReader) : Except Fault TokenReader :=
  match r.keys.find? (·.depth == r.depth) with
  | some k =>
    let r := { r with keys := r.keys.filter (·.depth != r.depth), keyAllowed := false }
    let column := k.place.column
    let r :=
      if !r.inFlow && r.opensBlock column then
        { r.insert k.tokens [.key, .blockMapping] with columns := column :: r.columns }
      else r.insert k.tokens [.key]
    .ok (r.mark .value 1)
  | none => do
    let r ← (← r.readyFor .blockMapping).dropKey
    return { r.mark .value 1 with keyAllowed := !r.inFlow }

/-- An anchor or an alias. -/
def readAnchor (t : Text → Token) (r : TokenReader) : Except Fault TokenReader := do
  let r ← r.saveKey
  let (name, c) ← anchorName r.cursor
  return { r.take (t name) c with keyAllowed := false }

/-- A tag. -/
def readTag (r : TokenReader) : Except Fault TokenReader := do
  let r ← r.saveKey
  let (t, c) ← tag r.cursor
  return { r.take t c with keyAllowed := false }

/-- A text written as a block of lines. -/
def readBlock (fold : Bool) (r : TokenReader) : Except Fault TokenReader := do
  let r ← r.dropKey
  let (s, c) ← block fold (max 1 r.innerColumn) r.cursor
  return { r.take (.scalar s false) c with keyAllowed := true }

/-- A text in quotes. -/
def readQuoted (double : Bool) (r : TokenReader) : Except Fault TokenReader := do
  let r ← r.saveKey
  let (s, c) ← quoted double r.cursor
  return { r.take (.scalar s false) c with keyAllowed := false }

/-- A plain text. -/
def readPlain (r : TokenReader) : Except Fault TokenReader := do
  let r ← r.saveKey
  let (s, newLine, c) := plain r.inFlow r.innerColumn r.cursor
  return { r.take (.scalar s true) c with keyAllowed := newLine }

/-! ## Whole documents -/

/-- Go on to the next token: over spaces, remarks and line breaks.  Outside flow collections a key
may begin on every new line. -/
def skipGaps : Nat → TokenReader → TokenReader
  | 0, r => r
  | fuel + 1, r =>
    let c := r.cursor.skipSpaces.skipRemark
    if isBreak c.peek then
      skipGaps fuel { r with cursor := c.lineBreak.2, keyAllowed := r.keyAllowed || !r.inFlow }
    else { r with cursor := c }

/-- The state in front of the next token. -/
def approach (r : TokenReader) : Except Fault TokenReader := do
  let r :=
    if r.cursor.index == 0 && r.cursor.peek == '\ufeff' then { r with cursor := r.cursor.next }
    else r
  let r ← (r.skipGaps (r.cursor.rest.length + 1)).dropStale
  return r.unindent r.cursor.column

/-- Whether a plain text begins at a character with the given one behind it. -/
def beginsPlain (flow : Bool) (x y : Char) : Bool :=
  if isGap x || "-?:,[]\x7b\x7d#&*!|>'\x22%@\x60".toList.contains x then
    !isGap y && (x == '-' || (!flow && (x == '?' || x == ':')))
  else true

/-- Read the next token. -/
def step (r : TokenReader) : Except Fault TokenReader := do
  let r ← r.approach
  let x := r.cursor.peek
  let y := r.cursor.peekAt 1
  if r.cursor.rest.isEmpty then r.readFinish
  else if x == '%' && r.cursor.column == 0 then r.readDirective
  else if r.cursor.atMarks '-' then r.readSeparator .documentStart
  else if r.cursor.atMarks '.' then r.readSeparator .documentEnd
  else if x == '[' then r.readFlowStart .flowSequence
  else if x == '\x7b' then r.readFlowStart .flowMapping
  else if x == ']' then r.readFlowEnd .flowSequenceEnd
  else if x == '\x7d' then r.readFlowEnd .flowMappingEnd
  else if x == ',' then r.readFlowEntry
  else if x == '-' && isGap y then r.readBlockEntry
  else if x == '?' && (r.inFlow || isGap y) then r.readKey
  else if x == ':' && (r.inFlow || isGap y) then r.readValue
  else if x == '*' then r.readAnchor .alias
  else if x == '&' then r.readAnchor .anchor
  else if x == '!' then r.readTag
  else if x == '|' && !r.inFlow then r.readBlock false
  else if x == '>' && !r.inFlow then r.readBlock true
  else if x == '\x27' then r.readQuoted false
  else if x == '\x22' then r.readQuoted true
  else if beginsPlain r.inFlow x y then r.readPlain
  else .error .unexpectedCharacter

/-- The tokens from some state on, up to the end of the text or the first fault. -/
def run : Nat → TokenReader → List Token
  | 0, r => r.tokens.reverse
  | fuel + 1, r =>
    match r.step with
    | .error f => r.tokens.reverse ++ [.unreadable f]
    | .ok r => if r.tokens.head? == some .finish then r.tokens.reverse else run fuel r

end TokenReader

/-- The tokens of a text. -/
def tokens (s : Text) : List Token :=
  if s.all isPrintable then TokenReader.run (s.length + 1) (.start s)
  else [.unreadable .unprintable]

end Docblock.Yaml
