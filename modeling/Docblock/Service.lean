/-
# Docblock.Service — answers to requests.

Other programs ask over a connection: whether the service is there, for the comments of a source, or
for the reference made of them.  A body that does not have the form asked for is answered with all
that is wrong with it.
-/
import Docblock.Json.Reader
import Docblock.Markdown.Page
import Docblock.Record
import Docblock.Reference.Document
import Docblock.Scan

namespace Docblock.Service

/-- What is wrong with a body. -/
inductive Complaint where
  /-- It is not there. -/
  | noBody
  /-- It cannot be read from the given place on. -/
  | notJson (position : Nat)
  | notAnObject
  /-- A member is not there. -/
  | noMember (name : String)
  | notAString (name : String)
  /-- A member is not of a type that could be a flag. -/
  | notAFlag (name : String)
  /-- A member is neither of the values of a flag. -/
  | noSuchFlag (name : String)
  deriving DecidableEq, Repr

namespace Complaint

/-- The name of what is wrong. -/
def kind : Complaint → String
  | noBody | noMember _ => "missing"
  | notJson _ => "json_invalid"
  | notAnObject => "model_attributes_type"
  | notAString _ => "string_type"
  | notAFlag _ => "bool_type"
  | noSuchFlag _ => "bool_parsing"

/-- Where it is wrong. -/
def place : Complaint → List Json
  | noBody | notAnObject => [.string "body".toList]
  | notJson p => [.string "body".toList, .int p]
  | noMember n | notAString n | notAFlag n | noSuchFlag n =>
    [.string "body".toList, .string n.toList]

end Complaint

/-- An answer. -/
inductive Reply where
  | answer (v : Json)
  | noSuchPath
  | wrongMethod
  /-- A body that is sound but cannot be held. -/
  | unusable
  | invalid (complaints : List Complaint)

/-! ## Bodies -/

/-- The flag that a number stands for. -/
def flagOfInt? (i : Int) : Option Bool :=
  if i = 0 then some false else if i = 1 then some true else none

/-- The words for a flag that is on. -/
def onWords : List Text := ["1", "t", "true", "on", "y", "yes"].map String.toList

/-- The words for a flag that is off. -/
def offWords : List Text := ["0", "f", "n", "no", "off", "false"].map String.toList

/-- The flag that a word stands for, in letters of either case. -/
def flagOfWord? (s : Text) : Option Bool :=
  let word := s.map Char.toLower
  if onWords.contains word then some true
  else if offWords.contains word then some false
  else none

/-- The whole number that a floating-point number is, when it is one of at most 64 bits. -/
def wholeOf? : Binary64 → Option Int
  | .finite negative m e =>
    let (num, den) := Binary64.fraction m e
    if num % den = 0 && num / den < Nat.pow 2 63 then
      some (if negative then -(num / den : Nat) else (num / den : Nat))
    else none
  | _ => none

/-- A member as a flag: a flag, zero or one, or a word for a flag. -/
def flagOf (name : String) : Json → Except Complaint Bool
  | .bool b => .ok b
  | .string s => orElse (flagOfWord? s)
  | .int i => orElse (flagOfInt? i)
  | .float x =>
    match wholeOf? x with
    | some i => orElse (flagOfInt? i)
    | none => .error (.notAFlag name)
  | _ => .error (.notAFlag name)
where
  /-- A flag that may not have been found. -/
  orElse : Option Bool → Except Complaint Bool
    | some b => .ok b
    | none => .error (.noSuchFlag name)

/-- The source in a body. -/
def sourceOf (body : Json) : Except Complaint Text :=
  match body.member? "source".toList with
  | none => .error (.noMember "source")
  | some (.string s) => .ok s
  | some _ => .error (.notAString "source")

/-- Whether a body asks for plain descriptions. -/
def rawOf (body : Json) : Except Complaint Bool :=
  match body.member? "raw".toList with
  | none => .ok false
  | some v => flagOf "raw" v

/-- The complaints in the outcomes of two readings. -/
def complaints {α β : Type} (a : Except Complaint α) (b : Except Complaint β) : List Complaint :=
  let of {γ : Type} : Except Complaint γ → List Complaint
    | .ok _ => []
    | .error c => [c]
  of a ++ of b

/-! ## Answers -/

/-- The comments of a source. -/
def comments (raw : Bool) (source : Text) : Json :=
  let style : Style := if raw then .untouched else { renderer := Markdown.page {} }
  .object [("comments".toList,
    .array ((Scan.ofSource style source).comments.map Comment.toJson))]

/-- The reference for a source. -/
def referenceOf (source : Text) : Json :=
  .object [("markdown".toList, .string (reference (Scan.ofSource .untouched source).comments))]

/-- The answer to a body with an object in it. -/
def answerObject (parse : Bool) (body : Json) : Reply :=
  if parse then
    match sourceOf body, rawOf body with
    | .ok s, .ok raw => .answer (comments raw s)
    | s, raw => .invalid (complaints s raw)
  else
    match sourceOf body with
    | .ok s => .answer (referenceOf s)
    | .error c => .invalid [c]

/-- The answer to a body that may be any text. -/
def answerBody (parse : Bool) (body : Text) : Reply :=
  if body.isEmpty then .invalid [.noBody]
  else
    match Json.read ((Text.after? ['\ufeff'] body).getD body) with
    | .error m => if m.fault = .numeralTooLong then .unusable else .invalid [.notJson m.position]
    | .ok (.object ms) => answerObject parse (.object ms)
    | .ok _ => .invalid [.notAnObject]

/-- The path of a request without what is asked for behind it and without slashes at its end. -/
def pathOf (target : Text) : Text :=
  let path := target.takeWhile fun c => c != '?' && c != '#'
  if path = ['/'] then path else Text.dropEndWhile (· == '/') path

/-- The answer to a request. -/
def respond (method target body : Text) : Reply :=
  let path := pathOf target
  let only (wanted : String) (r : Reply) : Reply :=
    if method = wanted.toList then r else .wrongMethod
  if path = "/health".toList then
    only "GET" (.answer (.object [("status".toList, .string "ok".toList)]))
  else if path = "/parse".toList then only "POST" (answerBody true body)
  else if path = "/api".toList then only "POST" (answerBody false body)
  else .noSuchPath

end Docblock.Service
