/-
# Docblock.CommandLine.Option — what can be asked for.

An option has a long name, most have a short one, and some take a value.
-/
import Docblock.Text.Basic

namespace Docblock.CommandLine

/-- An option of the command line. -/
inductive Switch where
  | help
  | raw
  | api
  | config
  | indent
  | verbose
  | logFile
  deriving DecidableEq, Repr, Inhabited

namespace Switch

/-- All options in the order in which they are told. -/
def all : List Switch := [help, raw, api, config, indent, verbose, logFile]

/-- The names of an option, the short one first. -/
def names : Switch → List Text
  | help => ["-h".toList, "--help".toList]
  | raw => ["-r".toList, "--raw".toList]
  | api => ["-a".toList, "--api".toList]
  | config => ["-c".toList, "--config".toList]
  | indent => ["--indent".toList]
  | verbose => ["-v".toList, "--verbose".toList]
  | logFile => ["--log-file".toList]

/-- Whether an option takes a value. -/
def takesValue : Switch → Bool
  | config | indent | logFile => true
  | _ => false

/-- All names with their options. -/
def table : List (Text × Switch) := all.flatMap fun s => s.names.map fun n => (n, s)

/-- The option of the given name. -/
def ofName? (name : Text) : Option Switch := table.lookup name

/-- All names of an option with slashes between them. -/
def title (s : Switch) : Text := Text.join ['/'] s.names

end Switch

end Docblock.CommandLine
