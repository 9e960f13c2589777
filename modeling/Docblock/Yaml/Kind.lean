/-
# Docblock.Yaml.Kind — what a node stands for.

A tag says which kind of value a node stands for.  A plain text without a tag is given the kind of
value that it looks like: a flag, a number, a date, or nothing at all; otherwise it is a string.
-/
import Docblock.Text.Basic
import Docblock.Yaml.Moment
import Docblock.Yaml.Number

namespace Docblock.Yaml

/-- What a node stands for. -/
inductive Kind where
  | null
  | bool
  | int
  | float
  | moment
  | string
  /-- Octets, written in groups of six bits. -/
  | octets
  | sequence
  | mapping
  | set
  /-- A sequence of mappings with one pair each. -/
  | orderedMapping
  /-- The place in a mapping where others are merged into it. -/
  | merge
  /-- The place in a mapping of what it stands for as a scalar. -/
  | ownValue
  | unknown
  deriving DecidableEq, Repr, Inhabited

namespace Kind

/-- What the tags of this language begin with. -/
def uriStem : Text := "tag:yaml.org,2002:".toList

/-- The kinds that have a tag, by the end of it. -/
def names : List (Text × Kind) := [
  ("null".toList, .null), ("bool".toList, .bool), ("int".toList, .int), ("float".toList, .float),
  ("timestamp".toList, .moment), ("str".toList, .string), ("binary".toList, .octets),
  ("seq".toList, .sequence), ("map".toList, .mapping), ("set".toList, .set),
  ("omap".toList, .orderedMapping), ("pairs".toList, .orderedMapping), ("merge".toList, .merge),
  ("value".toList, .ownValue)]

/-- The kind that a complete tag names. -/
def ofUri (uri : Text) : Kind :=
  ((Text.after? uriStem uri).bind fun name => names.lookup name).getD .unknown

/-- The spellings of flags. -/
def flagSpellings : List Text :=
  ["yes", "Yes", "YES", "no", "No", "NO", "true", "True", "TRUE", "false", "False", "FALSE", "on",
    "On", "ON", "off", "Off", "OFF"].map String.toList

/-- The spellings of nothing. -/
def nullSpellings : List Text := ["~", "null", "Null", "NULL", ""].map String.toList

/-- The kind of value that a plain text looks like.  One line feed at its end is overlooked. -/
def ofPlain (s : Text) : Kind :=
  let t := if s.length > 1 && s.getLast? == some '\n' then s.dropLast else s
  if flagSpellings.contains t then .bool
  else if looksReal t then .float
  else if looksWhole t then .int
  else if t = ['<', '<'] then .merge
  else if nullSpellings.contains t then .null
  else if Moment.looksLike t then .moment
  else if t = ['='] then .ownValue
  else if t = ['!'] || t = ['&'] || t = ['*'] then .unknown
  else .string

end Kind

end Docblock.Yaml
