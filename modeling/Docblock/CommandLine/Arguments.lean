/-
# Docblock.CommandLine.Arguments — what is asked for.

Every argument is an option, or a path, or the two hyphens behind which all arguments are paths.  A
long name may be shortened as long as it is that of one option only, and short names may be written
together.  All paths stand side by side: those behind another option are not understood.
-/
import Docblock.CommandLine.Option
import Docblock.Number.Numeral

namespace Docblock.CommandLine

/-- Why arguments are not understood. -/
inductive Misuse where
  /-- A shortened name that is that of several options. -/
  | ambiguous (argument : Text) (names : List Text)
  /-- A value for an option that takes none. -/
  | needlessValue (s : Switch) (value : Text)
  | missingValue (s : Switch)
  /-- A value that is no whole number. -/
  | badNumber (s : Switch) (value : Text)
  | unrecognized (arguments : List Text)
  deriving DecidableEq, Repr

/-- A value that may be given. -/
inductive Given (α : Type) where
  | absent
  /-- Two hyphens in the place of the value. -/
  | blank
  | value (a : α)
  deriving DecidableEq, Repr, Inhabited

/-- What is asked for. -/
structure Request where
  paths : List Text := []
  raw : Bool := false
  api : Bool := false
  config : Given Text := .absent
  indent : Given Int := .absent
  verbose : Bool := false
  logFile : Given Text := .absent
  deriving DecidableEq, Repr, Inhabited

/-! ## Single arguments -/

/-- What an argument is. -/
inductive Argument where
  | path (s : Text)
  /-- The two hyphens behind which all arguments are paths. -/
  | pathsFollow
  /-- An option, by a short name or not, with the value written behind its name. -/
  | switch (s : Switch) (short : Bool) (value : Option Text)
  | unknown (s : Text)
  deriving DecidableEq, Repr

/-- The text of an argument that is not an option. -/
def Argument.text : Argument → Text
  | path s | unknown s => s
  | pathsFollow => "--".toList
  | switch s _ _ => s.title

/-- Whether a text is a negative decimal number, which is never an option. -/
def isNegativeNumber (s : Text) : Bool :=
  let isDigit (c : Char) : Bool := (digitValue? c).isSome
  let digits (s : Text) : Bool := !s.isEmpty && s.all isDigit
  match (if s.getLast? == some '\n' then s.dropLast else s) with
  | '-' :: r =>
    match Text.cut ['.'] r with
    | (whole, none) => digits whole
    | (whole, some part) => whole.all isDigit && digits part
  | _ => false

/-- A text and the value behind an equals sign in it. -/
def splitValue (s : Text) : Text × Option Text := Text.cut ['='] s

/-- The options that a shortened long name, or short names written together, can mean. -/
def meanings (s : Text) : List (Text × Argument) :=
  match s with
  | '-' :: '-' :: _ =>
    let (stem, value) := splitValue s
    (Switch.table.filter fun p => Text.beginsWith stem p.1).map fun (n, w) =>
      (n, .switch w false value)
  | _ =>
    (Switch.table.filter fun p => p.1 == s.take 2).map fun (n, w) =>
      (n, .switch w true (some (s.drop 2)))

/-- What an argument is that stands in front of the two hyphens. -/
def classify (s : Text) : Except Misuse Argument :=
  if !Text.beginsWith ['-'] s then .ok (.path s)
  else
    let isShort (n : Text) : Bool := !Text.beginsWith "--".toList n
    match Switch.ofName? s with
    | some w => .ok (.switch w (isShort s) none)
    | none =>
      if s.length = 1 then .ok (.path s)
      else
        let (stem, value) := splitValue s
        match value, Switch.ofName? stem with
        | some v, some w => .ok (.switch w (isShort stem) (some v))
        | _, _ =>
          match meanings s with
          | [(_, a)] => .ok a
          | [] =>
            if isNegativeNumber s || s.contains ' ' then .ok (.path s) else .ok (.unknown s)
          | several => .error (.ambiguous s (several.map (·.1)))

/-- What each of several arguments is. -/
def classifyAll : List Text → Except Misuse (List Argument)
  | [] => .ok []
  | s :: r =>
    if s = "--".toList then .ok (.pathsFollow :: r.map .path)
    else do return (← classify s) :: (← classifyAll r)

/-! ## All arguments -/

/-- An option with its value. -/
abbrev Chosen := Switch × Text

/-- The choice of an option with nothing behind its name: its value is the next argument. -/
def chooseBare (w : Switch) (rest : List Argument) :
    Except Misuse (List Chosen × List Argument) :=
  if !w.takesValue then .ok ([(w, [])], rest)
  else
    match rest with
    | .path v :: r => .ok ([(w, v)], r)
    | _ => .error (.missingValue w)

/-- The choice of the option of a short name with a text behind it, which is its value, or else more
short names. -/
def chooseTogether (w : Switch) (rest : List Argument) :
    Text → Except Misuse (List Chosen × List Argument)
  | [] => chooseBare w rest
  | c :: r =>
    if w.takesValue then .ok ([(w, c :: r)], rest)
    else
      match Switch.ofName? ['-', c] with
      | none => .error (.needlessValue w (c :: r))
      | some next => do
        let (more, rest) ← chooseTogether next rest r
        return ((w, []) :: more, rest)

/-- The options that one argument chooses, and the arguments behind the value of the last of them.
-/
def choose (w : Switch) (short : Bool) (value : Option Text) (rest : List Argument) :
    Except Misuse (List Chosen × List Argument) :=
  match value with
  | none => chooseBare w rest
  | some v =>
    if w.takesValue then .ok ([(w, v)], rest)
    else if short && !v.isEmpty then chooseTogether w rest v
    else .error (.needlessValue w v)

/-- Why the arguments make no request. -/
inductive Halt where
  /-- Help is asked for. -/
  | help
  | misuse (m : Misuse)
  deriving DecidableEq, Repr

/-- A value, or the mark that stands for none. -/
def given {α : Type} (read : Text → Option α) (s : Text) : Option (Given α) :=
  if s = "--".toList then some .blank else (read s).map .value

/-- The request with one more option chosen. -/
def Request.choose (q : Request) : Chosen → Except Halt Request
  | (.help, _) => .error .help
  | (.raw, _) => .ok { q with raw := true }
  | (.api, _) => .ok { q with api := true }
  | (.verbose, _) => .ok { q with verbose := true }
  | (.config, v) => .ok { q with config := (given some v).getD .blank }
  | (.logFile, v) => .ok { q with logFile := (given some v).getD .blank }
  | (.indent, v) =>
    match given Numeral.toInt? v with
    | some i => .ok { q with indent := i }
    | none => .error (.misuse (.badNumber .indent v))

/-- What has been read of the arguments. -/
structure Reading where
  request : Request
  /-- Whether paths have been met. -/
  pathsMet : Bool
  /-- What was not understood. -/
  strange : List Text

/-- Whether an argument is one of the paths or the mark in front of them. -/
def isPath : Argument → Bool
  | .path _ | .pathsFollow => true
  | _ => false

/-- The texts of paths without the mark in front of them. -/
def pathsOf (as : List Argument) : List Text := (as.erase .pathsFollow).map Argument.text

/-- Read arguments from some place on.  The first argument bounds the number of steps; the number of
arguments is always enough. -/
def readFrom : Nat → Reading → List Argument → Except Halt Reading
  | 0, st, _ => .ok st
  | fuel + 1, st, as =>
    match as with
    | [] => .ok st
    | .unknown s :: r => readFrom fuel { st with strange := st.strange ++ [s] } r
    | .switch w short value :: r => do
      let (chosen, rest) ← (CommandLine.choose w short value r).mapError .misuse
      let request ← chosen.foldlM Request.choose st.request
      readFrom fuel { st with request } rest
    | as =>
      let run := as.takeWhile isPath
      let rest := as.drop run.length
      if st.pathsMet then
        readFrom fuel { st with strange := st.strange ++ run.map Argument.text } rest
      else
        readFrom fuel
          { st with request := { st.request with paths := pathsOf run }, pathsMet := true } rest

/-- The request that arguments make. -/
def Request.ofArguments (words : List Text) : Except Halt Request := do
  let as ← (classifyAll words).mapError .misuse
  let st ← readFrom (as.length + 1) { request := {}, pathsMet := false, strange := [] } as
  if st.strange.isEmpty then return st.request
  else throw (.misuse (.unrecognized st.strange))

end Docblock.CommandLine
