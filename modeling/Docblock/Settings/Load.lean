/-
# Docblock.Settings.Load — settings from a file.

The settings are in a file of a fixed name in some directory, or in a file of any name.  Where there
is no such file, the usual settings hold.  What the text of the file says is left to a reader of
documents.
-/
import Docblock.FileTree.Workplace
import Docblock.Scan
import Docblock.Settings.Basic

namespace Docblock.Settings

/-- The name of a settings file. -/
def fileName : Text := ".dox.yml".toList

/-- Why no settings can be loaded. -/
inductive Fault where
  | misfit (m : Misfit)
  /-- The file of the given name holds no document. -/
  | malformed (name : Text) (f : Yaml.Fault)
  /-- The file names a value that does not exist. -/
  | noSuchValue (f : Yaml.Fault)
  /-- The home directory of an unknown user is asked for. -/
  | unknownUser
  /-- The links on the way to the file lead nowhere. -/
  | endlessLinks
  | unreadable (a : Absence)
  | undecodable (f : Utf8.Fault)
  deriving DecidableEq, Repr

namespace Fault

/-- What is told of a fault in the settings themselves. -/
def message? : Fault → Option Text
  | misfit .notAMapping => some (fileName ++ " must contain a mapping at the root".toList)
  | misfit (.unknownFormat name) =>
    some ("Unsupported output format '".toList ++ name ++ "'; expected one of ".toList
      ++ Text.join ", ".toList (OutputFormat.names.map (·.1)))
  | malformed name _ => some ("Failed to parse ".toList ++ name)
  | _ => none

end Fault

/-- Settings, and the directory that they are for. -/
structure Loaded where
  root : Path
  settings : Settings
  deriving DecidableEq, Repr, Inhabited

/-- The plain path of the file that a path means: in a directory, the file of the fixed name. -/
def fileOf (w : Workplace) (p : Path) : Except Fault Path := do
  let p ←
    match w.expand? p with
    | some p => Except.ok p
    | none => .error .unknownUser
  let p := if w.isDirectory p then { p with parts := p.parts ++ [fileName] } else p
  match w.plainPath p with
  | .error _ => .error .endlessLinks
  | .ok file =>
    match w.place file with
    | .error .tooManyLinks => .error .endlessLinks
    | _ => .ok file

variable (reader : Yaml.Reader)

/-- The settings in the text of a file of the given name. -/
def ofText (name s : Text) : Except Fault Settings :=
  if Text.blank s then .ok {}
  else
    match reader s with
    | .error f => .error (if f.ofForm then .malformed name f else .noSuchValue f)
    | .ok v => (ofValue v).mapError .misfit

/-- Load the settings that a path leads to. -/
def load (w : Workplace) (p : Path) : Except Fault Loaded := do
  let file ← fileOf w p
  let root := Path.ofParts file.parts.dropLast
  if !w.leadsOn file then return { root, settings := {} }
  let os ← (w.read file).mapError .unreadable
  let s ← (Utf8.decode os).mapError .undecodable
  return { root, settings := ← ofText reader file.name (unifyNewlines s) }

end Docblock.Settings
