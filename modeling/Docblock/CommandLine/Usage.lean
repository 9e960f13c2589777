/-
# Docblock.CommandLine.Usage — how the program is used.

The text that is shown on request, and the shorter one that stands in front of a complaint.
-/
import Docblock.CommandLine.Arguments
import Docblock.Log.Record
import Docblock.Text.Quoted

namespace Docblock.CommandLine

/-- The name under which the program speaks. -/
def programName : Text := LogRecord.root

/-- How the program is called. -/
def usageLines : List String := [
  "usage: dox [-h] [-r] [-a] [-c CONFIG] [--indent INDENT] [-v]",
  "           [--log-file LOG_FILE]",
  "           [paths ...]"]

/-- What the program does, and what its arguments mean. -/
def helpLines : List String := [
  "",
  "Extract documentation comments from JavaScript source as JSON.",
  "",
  "positional arguments:",
  "  paths                 Files or directories to parse (reads stdin when",
  "                        omitted).",
  "",
  "options:",
  "  -h, --help            show this help message and exit",
  "  -r, --raw             Output description text without markdown rendering.",
  "  -a, --api             Output a markdown API reference instead of JSON.",
  "  -c CONFIG, --config CONFIG",
  "                        Path to a .dox.yml file or the directory containing",
  "                        it.",
  "  --indent INDENT       JSON indentation width (defaults to 2).",
  "  -v, --verbose         Increase log verbosity for troubleshooting.",
  "  --log-file LOG_FILE   Also write log records to this file."]

/-- Lines, each with its end. -/
def closedLines (ls : List String) : Text := ls.flatMap fun l => l.toList ++ ['\n']

/-- How the program is called. -/
def usage : Text := closedLines usageLines

/-- The whole help. -/
def help : Text := closedLines (usageLines ++ helpLines)

/-- A complaint about an option. -/
def Switch.complaint (s : Switch) (what : Text) : Text :=
  "argument ".toList ++ s.title ++ ": ".toList ++ what

/-- What is wrong with the arguments, in words. -/
def Misuse.message : Misuse → Text
  | ambiguous argument names =>
    "ambiguous option: ".toList ++ argument ++ " could match ".toList
      ++ Text.join ", ".toList names
  | needlessValue s v => s.complaint ("ignored explicit argument ".toList ++ Text.quoted v)
  | missingValue s => s.complaint "expected one argument".toList
  | badNumber s v => s.complaint ("invalid int value: ".toList ++ Text.quoted v)
  | unrecognized as => "unrecognized arguments: ".toList ++ Text.join [' '] as

/-- A line in which the program says something. -/
def saying (what : Text) : Text := programName ++ ": ".toList ++ what ++ ['\n']

/-- What is shown when the arguments are not understood. -/
def Misuse.report (m : Misuse) : Text := usage ++ saying ("error: ".toList ++ m.message)

end Docblock.CommandLine
