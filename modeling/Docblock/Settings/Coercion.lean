/-
# Docblock.Settings.Coercion — reading what was meant.

Settings are written by hand, so a value of another type is taken for what it obviously means: the
word `yes` for a flag, a numeral in quotes for a number, a single name for a list of one.  What
means nothing is passed over.
-/
import Docblock.Number.Shortest
import Docblock.Yaml.Value

namespace Docblock.Yaml.Value

/-- The words for a flag that is on. -/
def onWords : List Text := ["true", "yes", "1"].map String.toList

/-- The words for a flag that is off. -/
def offWords : List Text := ["false", "no", "0"].map String.toList

/-- A value as a flag: a flag, or a word for one with blanks around it. -/
def asFlag? : Value → Option Bool
  | bool b => some b
  | string s =>
    let word := Text.lower (Text.trim s)
    if onWords.contains word then some true
    else if offWords.contains word then some false
    else none
  | _ => none

/-- A value as a whole number: a whole number, or a numeral. -/
def asWhole? : Value → Option Int
  | int i => some i
  | string s => Numeral.toInt? s
  | _ => none

/-- A single value as a text. -/
def asText? : Value → Option Text
  | string s => some s
  | bool b => some (if b then "True" else "False").toList
  | int i => some (Numeral.ofInt i)
  | float x => some x.text
  | _ => none

/-- Whether a value is not a number too long to be written out. -/
def writable : Value → Bool
  | int i => Numeral.writable i
  | _ => true

/-- The values that a list of texts is read from: those of a list, or a string for itself. -/
def items : Value → List Value
  | string s => [string s]
  | list vs => vs
  | octets os => os.map fun o => int o.toNat
  | _ => []

/-- A value as a list of texts; what has no text is left out of it. -/
def asTexts (v : Value) : List Text := v.items.filterMap asText?

/-- A value as a mapping; anything else is an empty one. -/
def asMap : Value → Value
  | map ps => map ps
  | _ => map []

/-- Whether a value says nothing: null, false, zero, or empty. -/
def saysNothing : Value → Bool
  | null | bool false | int 0 | string [] | octets [] | list [] | map [] | set [] => true
  | float x => x.isZero
  | _ => false

end Docblock.Yaml.Value
