/-
# Docblock.Yaml.Fault — why a document gives no value.

Two kinds of faults are kept apart.  Most say that the document is malformed: its characters form no
tokens, its tokens no tree, or its tree no value.  The others say that a document of sound form
names a value that does not exist, such as the thirtieth of February.
-/
namespace Docblock.Yaml

/-- Why a document gives no value. -/
inductive Fault where
  /-- A character that may not stand in a document. -/
  | unprintable
  /-- A character that begins no token. -/
  | unexpectedCharacter
  /-- A key whose colon is missing. -/
  | missingColon
  /-- An entry, a key or a value where none may begin. -/
  | misplaced
  | badDirective
  | badAnchor
  | badTag
  | badEscape
  | unclosedQuote
  | badBlockHeader
  | unexpectedToken
  | undefinedAlias
  | repeatedAnchor
  | undefinedHandle
  | severalDocuments
  | unknownTag
  /-- A node whose shape does not fit its tag. -/
  | wrongShape
  /-- A key that can be changed, so that it cannot be looked up. -/
  | changeableKey
  | badMerge
  | badOctets
  /-- A flag that is neither on nor off. -/
  | noSuchFlag
  /-- A numeral without a digit. -/
  | emptyNumeral
  | badNumeral
  /-- A text in the place of a date. -/
  | notADate
  /-- A mapping in the place of the text of a date. -/
  | notAText
  /-- A mapping whose text is its own. -/
  | endlessText
  /-- A day or an hour that does not exist. -/
  | noSuchDate
  /-- The number of no character. -/
  | noSuchCharacter
  /-- A number too large to be looked at as that of a character. -/
  | hugeCharacter
  deriving DecidableEq, Repr, Inhabited

namespace Fault

/-- Whether the document itself is malformed, and not a value that it names. -/
def ofForm : Fault → Bool
  | noSuchFlag | emptyNumeral | badNumeral | notADate | notAText | endlessText | noSuchDate
  | noSuchCharacter | hugeCharacter => false
  | _ => true

end Fault

end Docblock.Yaml
