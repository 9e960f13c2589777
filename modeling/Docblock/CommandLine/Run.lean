/-
# Docblock.CommandLine.Run — one run of the program.

A run reads the settings, gathers the sources, scans them and makes one text of the outcome.
Nothing is written before all of this has succeeded, so a run that fails writes nothing but its
complaint.  The reader of documents that the settings are read with is given from outside.
-/
import Docblock.Collection
import Docblock.CommandLine.Usage
import Docblock.Json.Writer
import Docblock.Log.Delivery
import Docblock.Record
import Docblock.Reference.Document
import Docblock.Settings.Load

namespace Docblock.CommandLine

/-- Why a run fails. -/
inductive Fault where
  | settings (f : Settings.Fault)
  | sources (f : SourceFault)
  /-- The file for records cannot be written. -/
  | logFile (a : Absence)
  /-- Two hyphens stand where the path of the settings should. -/
  | noConfig
  /-- Two hyphens stand where the path of the file for records should. -/
  | noLogFile
  /-- The indentation is wider than any text. -/
  | hugeIndent
  deriving DecidableEq, Repr

namespace Fault

/-- What is told of a fault; of some nothing is, and the program breaks off. -/
def message? : Fault → Option Text
  | settings f => f.message?
  | sources f => f.message?
  | _ => none

end Fault

/-! ## What is to be done -/

/-- The settings of a run: those in the file, unless the arguments say otherwise. -/
def Request.settings (reader : Yaml.Reader) (q : Request) (w : Workplace) :
    Except Fault Settings := do
  let path ←
    match q.config with
    | .absent => Except.ok (Path.ofParts w.here)
    | .blank => .error .noConfig
    | .value s => .ok (Path.ofText s)
  let l ← (Settings.load reader w path).mapError .settings
  let s := l.settings
  return { s with
    raw := q.raw || s.raw
    output := if q.api then .api else s.output
    indent :=
      match q.indent with
      | .absent => s.indent
      | .blank => 0
      | .value i => i }

/-- The name of what is read when no path is given. -/
def standardInput : Text := "<stdin>".toList

/-- The sources of a run with their names, and what is reported of gathering them. -/
def Request.sources (q : Request) (s : Settings) (w : Workplace) (input : Text) :
    Except Fault (List LogRecord × List (Text × Text)) :=
  if q.paths.isEmpty then .ok ([], [(standardInput, input)])
  else do
    let search := Search.of s.extensions s.excludePaths
    let files ← (search.collect w q.paths).mapError .sources
    return ([Search.countRecord files.length], files.map fun f => (f.relative, f.text))

/-- How descriptions are treated: they stay as they are in a reference, and where the settings say
so. -/
def styleFor (s : Settings) : Style :=
  if s.raw || s.output = .api then .untouched else { renderer := Markdown.page s.markdown }

/-! ## What is written -/

/-- Comments as a value. -/
def commentsJson (cs : List Comment) : Json := .array (cs.map Comment.toJson)

/-- The members with one of the given name set: in its old place, or at the end. -/
def setMember (name : Text) (v : Json) : List (Text × Json) → List (Text × Json)
  | [] => [(name, v)]
  | (n, u) :: ms => if n = name then (name, v) :: ms else (n, u) :: setMember name v ms

/-- The value of several sources with their comments: a single one stands for itself. -/
def payload : List (Text × List Comment) → Json
  | [(_, cs)] => commentsJson cs
  | several => .object (several.foldl (fun ms (name, cs) => setMember name (commentsJson cs) ms) [])

/-- Whether a width is within the range of sizes. -/
def fits (width : Int) : Bool := -(Int.pow 2 63) ≤ width && width < Int.pow 2 63

/-- What is written for several sources with their comments. -/
def writtenFor (s : Settings) (results : List (Text × List Comment)) :
    Except Fault Text :=
  match s.output with
  | .api => .ok (results.flatMap fun (_, cs) => reference cs)
  | .json =>
    if fits s.indent then .ok (Json.write (.ofWidth s.indent) (payload results) ++ ['\n'])
    else .error .hugeIndent

/-! ## Runs -/

/-- The report that a source is now scanned. -/
def scanRecord (name : Text) : LogRecord := .of .debug "cli" ("Parsing ".toList ++ name)

/-- What a run reports, and what it writes or why it fails. -/
structure Report where
  records : List LogRecord
  result : Except Fault Text

/-- Do what is asked for. -/
def Request.run (reader : Yaml.Reader) (q : Request) (w : Workplace) (input : Text) : Report :=
  match q.settings reader w with
  | .error f => { records := [], result := .error f }
  | .ok s =>
    match q.sources s w input with
    | .error f => { records := [], result := .error f }
    | .ok (records, sources) =>
      let scans := sources.map fun (name, text) => (name, Scan.ofSource (styleFor s) text)
      { records := records ++ scans.flatMap fun (name, scan) => scanRecord name :: scan.records
        result := writtenFor s (scans.map fun (name, scan) => (name, scan.comments)) }

/-- How a call of the program ends. -/
inductive Ending where
  | success
  | misuse (m : Misuse)
  /-- The run failed, and this was told. -/
  | failure (f : Fault)
  /-- The program broke off. -/
  | breakdown (f : Fault)
  deriving DecidableEq, Repr

/-- The exit status of an ending; a program that breaks off has none of its own. -/
def Ending.status? : Ending → Option Nat
  | success => some 0
  | failure _ => some 1
  | misuse _ => some 2
  | breakdown _ => none

/-- The outcome of a call of the program. -/
structure Outcome where
  ending : Ending
  output : Text
  complaints : Text
  /-- The files afterwards. -/
  workplace : Workplace

/-- Set up the delivery of records as a request says. -/
def Request.delivery (q : Request) (w : Workplace) : Except Fault (Workplace × Delivery) :=
  match q.logFile with
  | .absent => (Delivery.setUp w q.verbose none).mapError .logFile
  | .blank => .error .noLogFile
  | .value s => (Delivery.setUp w q.verbose (some (.ofText s))).mapError .logFile

/-- The ending that a fault leads to. -/
def Ending.ofFault (f : Fault) : Ending :=
  if f.message?.isSome then .failure f else .breakdown f

/-- The outcome of a request. -/
def Request.outcome (reader : Yaml.Reader) (q : Request) (w : Workplace) (time input : Text) :
    Outcome :=
  match q.delivery w with
  | .error f => { ending := .breakdown f, output := [], complaints := [], workplace := w }
  | .ok (w, d) =>
    let report := q.run reader w input
    let screen := d.onScreen report.records
    let workplace := d.keep time report.records w
    match report.result with
    | .ok output => { ending := .success, output, complaints := screen, workplace }
    | .error f =>
      let told : Text := (f.message?.map saying).getD []
      { ending := .ofFault f, output := [], complaints := screen ++ told, workplace }

/-- Call the program with arguments and an input; `time` stands in front of every record that is
kept. -/
def call (reader : Yaml.Reader) (w : Workplace) (time : Text) (arguments : List Text)
    (input : Text) : Outcome :=
  match Request.ofArguments arguments with
  | .error .help => { ending := .success, output := help, complaints := [], workplace := w }
  | .error (.misuse m) =>
    { ending := .misuse m, output := [], complaints := m.report, workplace := w }
  | .ok q => q.outcome reader w time input

end Docblock.CommandLine
