/-
# Docblock.Markdown.Page — pages in HTML.

The written form of blocks and their inline parts.  A paragraph of a tight list is not set off, and
the tag that opens a block right behind such a paragraph begins a new line.
-/
import Docblock.Html.Escape
import Docblock.Markdown.BlockReader
import Docblock.Markdown.LineReader

namespace Docblock.Markdown

/-- What the reader of descriptions may choose. -/
structure Options where
  /-- HTML is kept as it is. -/
  html : Bool := true
  /-- Typographic replacements are wanted; no such replacement is in force, so nothing depends on
  it. -/
  typographer : Bool := false
  /-- Every line end inside a paragraph is a hard break. -/
  breaks : Bool := false
  deriving DecidableEq, Repr, Inhabited

/-- An attribute of a tag. -/
def attr (name : String) (value : Text) : Text :=
  ' ' :: name.toList ++ ['=', '\x22'] ++ Html.escape value ++ ['\x22']

/-- The name of the tag for a span. -/
def Span.tag : Span → Text
  | emphasis => "em".toList
  | strong => "strong".toList
  | strike => "s".toList

/-- A part of a line in HTML. -/
def Inline.toHtml (o : Options) : Inline → Text
  | text s => Html.escape s
  | special s => Html.escape s
  | code s => "<code>".toList ++ Html.escape s ++ "</code>".toList
  | html s => s
  | softBreak => (if o.breaks then "<br />\n" else "\n").toList
  | hardBreak => "<br />\n".toList
  | opens k => '<' :: k.tag ++ ['>']
  | closes k => '<' :: '/' :: k.tag ++ ['>']
  | linkOpens a t =>
    "<a".toList ++ attr "href" a ++ (if t.isEmpty then [] else attr "title" t) ++ ['>']
  | linkCloses => "</a>".toList
  | image a t alt =>
    "<img".toList ++ attr "src" a ++ attr "alt" alt
      ++ (if t.isEmpty then [] else attr "title" t) ++ " />".toList

/-- A text read as a line, in HTML. -/
def lineHtml (o : Options) (ds : List Definition) (s : Text) : Text :=
  (inlines { html := o.html, definitions := ds } s).flatMap (Inline.toHtml o)

/-- A code block; the class names the language. -/
def codeHtml (language : Text) (s : Text) : Text :=
  "<pre><code".toList
    ++ (if language.isEmpty then [] else attr "class" ("language-".toList ++ language))
    ++ '>' :: Html.escape s ++ "</code></pre>\n".toList

/-- The language that the text behind a fence names: its first word. -/
def language (info : Text) : Text := (Text.words (plain info)).headD []

/-- The attribute of a cell in an aligned column. -/
def Alignment.style : Alignment → Text
  | unset => []
  | left => attr "style" "text-align:left".toList
  | right => attr "style" "text-align:right".toList
  | center => attr "style" "text-align:center".toList

/-- A row of a table. -/
def rowHtml (o : Options) (ds : List Definition) (tag : Text) (columns : List Alignment)
    (row : List Text) : Text :=
  "<tr>\n".toList
    ++ (columns.zip row).flatMap (fun (a, s) =>
      '<' :: tag ++ a.style ++ '>' :: lineHtml o ds s ++ "</".toList ++ tag ++ ">\n".toList)
    ++ "</tr>\n".toList

/-- A table. -/
def tableHtml (o : Options) (ds : List Definition) (t : Table) : Text :=
  "<table>\n<thead>\n".toList ++ rowHtml o ds "th".toList t.columns t.head ++ "</thead>\n".toList
    ++ (if t.rows.isEmpty then []
      else "<tbody>\n".toList ++ t.rows.flatMap (rowHtml o ds "td".toList t.columns)
        ++ "</tbody>\n".toList)
    ++ "</table>\n".toList

/-- Whether a block leaves nothing on the page. -/
def Block.isSilent : Block → Bool
  | .definition _ => true
  | _ => false

/-- Whether a block is a paragraph. -/
def Block.isParagraph : Block → Bool
  | .paragraph _ => true
  | _ => false

/-- The line break in front of a block that stands right behind a paragraph that is not set off. -/
def lead (joined : Bool) : Text := if joined then ['\n'] else []

/-- The line break behind a tag that opens a container: none when the container is empty or begins
with a paragraph that is not set off. -/
def openBreak (tight : Bool) (bs : List Block) : Text :=
  match bs.dropWhile Block.isSilent with
  | [] => []
  | b :: _ => if tight && b.isParagraph then [] else ['\n']

mutual

/-- A block in HTML.  `tight` says that paragraphs are not set off, and `joined` that the block
stands right behind such a paragraph. -/
def Block.toHtml (o : Options) (ds : List Definition) (tight joined : Bool) : Block → Text
  | .paragraph s =>
    if tight then lineHtml o ds s else "<p>".toList ++ lineHtml o ds s ++ "</p>\n".toList
  | .heading level s =>
    let tag := 'h' :: Numeral.ofNat level
    lead joined ++ '<' :: tag ++ '>' :: lineHtml o ds s ++ "</".toList ++ tag ++ ">\n".toList
  | .rule => lead joined ++ "<hr />\n".toList
  | .code s => codeHtml [] s
  | .fenced info s => codeHtml (language info) s
  | .html s => s
  | .quote bs =>
    lead joined ++ "<blockquote>".toList ++ openBreak false bs ++ blocksHtml o ds false false bs
      ++ "</blockquote>\n".toList
  | .list start t items =>
    let tag := if start.isSome then "ol".toList else "ul".toList
    let first :=
      match start with
      | some n => if n = 1 then [] else attr "start" (Numeral.ofNat n)
      | none => []
    lead joined ++ '<' :: tag ++ first ++ ">\n".toList ++ itemsHtml o ds t items
      ++ "</".toList ++ tag ++ ">\n".toList
  | .table t => lead joined ++ tableHtml o ds t
  | .definition _ => []

/-- Blocks in HTML. -/
def blocksHtml (o : Options) (ds : List Definition) (tight joined : Bool) : List Block → Text
  | [] => []
  | b :: bs =>
    Block.toHtml o ds tight joined b
      ++ blocksHtml o ds tight (if b.isSilent then joined else tight && b.isParagraph) bs

/-- The items of a list in HTML. -/
def itemsHtml (o : Options) (ds : List Definition) (tight : Bool) : List (List Block) → Text
  | [] => []
  | bs :: items =>
    "<li>".toList ++ openBreak tight bs ++ blocksHtml o ds tight false bs ++ "</li>\n".toList
      ++ itemsHtml o ds tight items

end

/-- Unify line ends, and replace characters that no page may contain. -/
def clean (s : Text) : Text :=
  (Text.replace ['\r'] ['\n'] (Text.replace ['\r', '\n'] ['\n'] s)).map fun c =>
    if c == '\x00' then '\ufffd' else c

/-- The page for a text; a blank text gives no page. -/
def page (o : Options) (s : Text) : Text :=
  if Text.blank s then []
  else
    let bs := blocks o.html (clean s)
    blocksHtml o (definitionsIn bs) false false bs

end Docblock.Markdown
