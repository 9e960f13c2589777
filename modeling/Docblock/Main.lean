/-
# Docblock.Main — the program.

The outer layer: it looks at the files that the arguments lead to, lets the library decide what is
written, and writes it.  Nothing is decided here.
-/
import Docblock.CommandLine.Run
import Std.Time

namespace Docblock.Program

/-- The names of a path as the system writes it. -/
def namesOfSystem (path : String) : List Text := (Path.ofText path.toList).parts

/-- The octets in a buffer. -/
def octetsOf (b : ByteArray) : Octets := b.toList

/-- The buffer with the given octets. -/
def bufferOf (os : Octets) : ByteArray := ByteArray.mk os.toArray

/-- The files with what the system has at a place.  The entries of a directory are looked at when
`deep`, but for those in which no source is ever looked for. -/
partial def look (deep : Bool) (names : List Text) (files : FileTree) : IO FileTree := do
  let path := System.mkFilePath ["/", String.ofList (Path.joined names)]
  let kind ← (some ∘ (·.type)) <$> path.symlinkMetadata <|> pure none
  match kind with
  | some .symlink =>
    let target ← (some ∘ (·.toString)) <$> IO.FS.realPath path <|> pure none
    match target with
    | none => return FileTree.put (.link { absolute := true, parts := [[]] }) names files
    | some t =>
      let place := namesOfSystem t
      let files := FileTree.put (.link (.ofParts place)) names files
      if (files.at? place).isSome then return files else look false place files
  | some .dir =>
    let mut files := files
    unless ((files.at? names).map FileTree.isDirectory).getD false do
      files := FileTree.put (.directory []) names files
    if deep then
      for entry in ← path.readDir <|> pure #[] do
        let name := entry.fileName.toList
        unless Search.neverSearched.contains name do
          files ← look true (names ++ [name]) files
    return files
  | some .file =>
    let content ← (some ∘ octetsOf) <$> IO.FS.readBinFile path <|> pure none
    return (content.map fun os => FileTree.put (.file os) names files).getD files
  | _ => return files

/-- The files with all that is on the way along names from a place, and the place there. -/
def enter (files : FileTree) (place : List Text) : List Text → IO (FileTree × List Text)
  | [] => return (files, place)
  | name :: rest => do
    if name = "..".toList then enter files place.dropLast rest
    else
      let files ← look false (place ++ [name]) files
      match files.at? (place ++ [name]) with
      | some (.link p) => enter files p.parts rest
      | _ => enter files (place ++ [name]) rest

/-- The workplace with all that a path leads to, and below it when `deep`. -/
def visit (deep : Bool) (w : Workplace) (path : Path) : IO Workplace := do
  let path := (w.expand? path).getD path
  let (files, place) ← enter w.files [] (w.namesOf path)
  let files ← if deep then look true place files else pure files
  return { w with files }

/-- The workplace with all that a request can need. -/
def gather (q : CommandLine.Request) (w : Workplace) : IO Workplace := do
  let mut w := w
  let config : Path :=
    match q.config with
    | .value s => .ofText s
    | _ => .ofParts w.here
  w ← visit false w config
  w ← visit false w { config with parts := config.parts ++ [Settings.fileName] }
  if let .value s := q.logFile then
    w ← visit false w (.ofParts (w.lexicalNames (.ofText s)))
  for path in q.paths do
    w ← visit true w (.ofText path)
  return w

/-- All that is left of the input. -/
partial def readAll (input : IO.FS.Stream) (before : ByteArray) : IO ByteArray := do
  let more ← input.read 65536
  if more.isEmpty then return before else readAll input (before ++ more)

/-- Write what a call has added to the file for records. -/
def keepRecords (q : CommandLine.Request) (before after : Workplace) : IO Unit := do
  if let .value s := q.logFile then
    let path := Path.ofParts (before.lexicalNames (.ofText s))
    if let .ok new := after.read path then
      let old := (before.read path).toOption.getD []
      IO.FS.withFile (String.ofList path.text) .append fun h =>
        h.write (bufferOf (new.drop old.length))

/-- The time, as it stands in front of records. -/
def timeStamp : IO Text := do
  let now ← Std.Time.PlainDateTime.now
  return (now.format "uuuu-MM-dd HH:mm:ss,SSS ").toList

/-- Call the program with the files of the system. -/
def call (arguments : List String) : IO UInt32 := do
  let here := namesOfSystem (← IO.FS.realPath (← IO.currentDir)).toString
  let home := namesOfSystem ((← IO.getEnv "HOME").getD "/")
  let words := arguments.map String.toList
  let start : Workplace := { files := .directory [], here, home }
  let (w, input) ←
    match CommandLine.Request.ofArguments words with
    | .error _ => pure (start, some [])
    | .ok q =>
      let octets ←
        if q.paths.isEmpty then octetsOf <$> readAll (← IO.getStdin) ByteArray.empty else pure []
      pure (← gather q start, (Utf8.decode octets).toOption)
  match input with
  | none =>
    IO.eprintln "dox: the input is not a text in UTF-8"
    return 1
  | some input =>
    let outcome := CommandLine.call Yaml.read w (← timeStamp) words input
    if let .ok q := CommandLine.Request.ofArguments words then
      keepRecords q w outcome.workplace
    IO.print (String.ofList outcome.output)
    IO.eprint (String.ofList outcome.complaints)
    match outcome.ending.status? with
    | some n => return n.toUInt32
    | none =>
      IO.eprintln "dox: the run broke off"
      return 1

end Docblock.Program

/-- The program. -/
def main (arguments : List String) : IO UInt32 := Docblock.Program.call arguments
