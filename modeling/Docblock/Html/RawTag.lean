/-
# Docblock.Html.RawTag — recognising HTML inside other text.

Every recogniser takes a text and hands back what stands behind the thing recognised.  A tag is an
opening tag with attributes, a closing tag, a comment, a processing instruction, a declaration, or a
section of character data.
-/
import Docblock.Text.Blank

namespace Docblock.Html

/-- Whether a character may begin the name of an attribute. -/
def isAttributeStart (c : Char) : Bool := c.isAlpha || c == '_' || c == ':'

/-- Whether a character may stand in the name of an attribute. -/
def isAttributeName (c : Char) : Bool := isAttributeStart c || c.isDigit || c == '.' || c == '-'

/-- Whether a character may stand in a value without quotes. -/
def isBareValue (c : Char) : Bool :=
  !(c.toNat ≤ 0x20 || c == '\x22' || c == '\x27' || c == '=' || c == '<' || c == '>' || c == '\x60')

/-- The name of a tag, and what stands behind it. -/
def tagName? (s : Text) : Option (Text × Text) :=
  match s with
  | c :: r =>
    if c.isAlpha then
      let isName (c : Char) : Bool := c.isAlphanum || c == '-'
      some (c :: r.takeWhile isName, r.dropWhile isName)
    else none
  | [] => none

/-- Behind the value of an attribute. -/
def behindValue? (s : Text) : Option Text :=
  match s with
  | '\x22' :: r => (Text.cut ['\x22'] r).2
  | '\x27' :: r => (Text.cut ['\x27'] r).2
  | _ => if (s.takeWhile isBareValue).isEmpty then none else some (s.dropWhile isBareValue)

/-- Behind the name of an attribute and its value, if it has one. -/
def behindAttribute? (s : Text) : Option Text :=
  match s with
  | c :: r =>
    if isAttributeStart c then
      let r := r.dropWhile isAttributeName
      match r.dropWhile isBlank with
      | '=' :: v => behindValue? (v.dropWhile isBlank)
      | _ => some r
    else none
  | [] => none

/-- Behind the attributes and the end of an opening tag. -/
def behindAttributes? : Nat → Text → Option Text
  | 0, _ => none
  | fuel + 1, s =>
    match s.dropWhile isBlank with
    | '>' :: r => some r
    | '/' :: '>' :: r => some r
    | r =>
      if (s.takeWhile isBlank).isEmpty then none
      else (behindAttribute? r).bind (behindAttributes? fuel)

/-- Behind an opening tag. -/
def behindOpenTag? (s : Text) : Option Text := do
  let r ← Text.after? ['<'] s
  let (_, r) ← tagName? r
  behindAttributes? (r.length + 1) r

/-- Behind a closing tag. -/
def behindCloseTag? (s : Text) : Option Text := do
  let r ← Text.after? ['<', '/'] s
  let (_, r) ← tagName? r
  Text.after? ['>'] (r.dropWhile isBlank)

/-- Behind the end of a comment, from inside it on. -/
def behindCommentText? : Text → Option Text
  | '-' :: '-' :: '>' :: r => some r
  | '-' :: '-' :: _ :: r => behindCommentText? r
  | '-' :: '-' :: [] => none
  | _ :: r => behindCommentText? r
  | [] => none

/-- Behind a comment. -/
def behindComment? (s : Text) : Option Text := do
  let r ← Text.after? "<!--".toList s
  match r with
  | '>' :: r' => some r'
  | '-' :: '>' :: r' => some r'
  | _ => behindCommentText? r

/-- Behind a processing instruction. -/
def behindInstruction? (s : Text) : Option Text := do
  (Text.cut ['?', '>'] (← Text.after? ['<', '?'] s)).2

/-- Behind a declaration. -/
def behindDeclaration? (s : Text) : Option Text := do
  match ← Text.after? ['<', '!'] s with
  | c :: r => if c.isAlpha then (Text.cut ['>'] r).2 else none
  | [] => none

/-- Behind a section of character data. -/
def behindData? (s : Text) : Option Text := do
  (Text.cut "]]>".toList (← Text.after? "<![CDATA[".toList s)).2

/-- Behind whatever tag stands at the front. -/
def behindTag? (s : Text) : Option Text :=
  [behindOpenTag?, behindCloseTag?, behindComment?, behindInstruction?, behindDeclaration?,
    behindData?].findSome? (· s)

end Docblock.Html
