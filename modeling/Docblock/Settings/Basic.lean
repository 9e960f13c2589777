/-
# Docblock.Settings.Basic — what can be set.

Every setting has a usual value and a key of its own in a mapping.  A key whose value means nothing
for its setting leaves the usual value in force; only an output format that is not known is refused.
-/
import Docblock.Markdown.Page
import Docblock.Settings.Coercion

namespace Docblock

/-- What is written for the comments. -/
inductive OutputFormat where
  /-- The comments themselves. -/
  | json
  /-- A reference of what they document. -/
  | api
  deriving DecidableEq, Repr, Inhabited

namespace OutputFormat

/-- The formats and their names. -/
def names : List (Text × OutputFormat) := [("json".toList, json), ("api".toList, api)]

end OutputFormat

/-- The settings of a run. -/
structure Settings where
  raw : Bool := false
  output : OutputFormat := .json
  indent : Int := 2
  extensions : List Text := [".js".toList]
  excludePaths : List Text := []
  markdown : Markdown.Options := {}
  deriving DecidableEq, Repr, Inhabited

namespace Settings

/-- Why a document gives no settings. -/
inductive Misfit where
  /-- It is not a mapping. -/
  | notAMapping
  /-- It names an output format that is not known. -/
  | unknownFormat (name : Text)
  /-- A number in it is too long to be written out. -/
  | hugeNumber
  deriving DecidableEq, Repr, Inhabited

/-- The value under a key, null when there is none. -/
def under (name : String) (v : Yaml.Value) : Yaml.Value := (v.member? name.toList).getD .null

/-- The output format that a value names, if it names any. -/
def formatOf (v : Yaml.Value) : Except Misfit (Option OutputFormat) :=
  match v.asText? with
  | none | some [] => .ok none
  | some s =>
    if !v.writable then .error .hugeNumber
    else
      let name := Text.lower s
      match OutputFormat.names.lookup name with
      | some f => .ok (some f)
      | none => .error (.unknownFormat name)

/-- The texts that a value lists. -/
def textsOf (v : Yaml.Value) : Except Misfit (List Text) :=
  if v.items.all (·.writable) then .ok v.asTexts else .error .hugeNumber

/-- The indentation that a value gives: a number that is not negative. -/
def indentOf? (v : Yaml.Value) : Option Int := v.asWhole?.filter (0 ≤ ·)

/-- An extension with the point in front of it. -/
def withPoint (s : Text) : Text := if Text.beginsWith ['.'] s then s else '.' :: s

/-- The extensions that texts give, when there are any. -/
def extensionsOf? (names : List Text) : Option (List Text) :=
  if names.isEmpty then none else some (names.map withPoint)

/-- The options of the renderer that a mapping gives. -/
def markdownOf (v : Yaml.Value) : Markdown.Options :=
  let usual : Markdown.Options := {}
  let flag (name : String) (d : Bool) : Bool := (under name v.asMap).asFlag?.getD d
  { html := flag "html" usual.html
    typographer := flag "typographer" usual.typographer
    breaks := flag "breaks" usual.breaks }

/-- The settings in a mapping. -/
def ofMapping (v : Yaml.Value) : Except Misfit Settings := do
  let usual : Settings := {}
  let output ← formatOf (under "output" v)
  let extensions ← textsOf (under "extensions" v)
  let excludePaths ← textsOf (under "exclude_paths" v)
  return {
    raw := (under "raw" v).asFlag?.getD usual.raw
    output := output.getD usual.output
    indent := (indentOf? (under "indent" v)).getD usual.indent
    extensions := (extensionsOf? extensions).getD usual.extensions
    excludePaths
    markdown := markdownOf (under "markdown" v) }

/-- The settings in a document: what says nothing sets nothing. -/
def ofValue (v : Yaml.Value) : Except Misfit Settings :=
  if v.saysNothing then .ok {}
  else
    match v with
    | .map ps => ofMapping (.map ps)
    | _ => .error .notAMapping

end Settings

end Docblock
