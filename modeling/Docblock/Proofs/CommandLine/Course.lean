/-
# Docblock.Proofs.CommandLine.Course — what has been written when a run fails.

What is written cannot be taken back.  So a run is looked at here as it goes on: paths are gathered
one after the other, sources are scanned one after the other, and every report and every piece of
output stays when a later step fails (`Request.perform`).  Followed to its end this is the run
itself (`perform_eq_run`).  Each step that can fail is silent, and silent steps in front of the
output make a run that writes all or nothing.  Main statement: a call that does not succeed has
written nothing at any time, however far it has come and whichever step fails; and it fails when one
of its paths does (`call_all_or_nothing`).
-/
import Docblock.Proofs.CommandLine.Output

namespace Docblock.CommandLine

/-! ## Courses -/

/-- Something done in a run that is seen from outside. -/
inductive Deed where
  | report (r : LogRecord)
  | write (s : Text)
  deriving DecidableEq, Repr

namespace Deed

/-- All that is written in several deeds. -/
def written (ds : List Deed) : Text :=
  ds.flatMap fun
    | .write s => s
    | .report _ => []

/-- All that is reported in several deeds. -/
def reported (ds : List Deed) : List LogRecord :=
  ds.filterMap fun
    | .report r => some r
    | .write _ => none

@[simp] theorem written_append (ds es : List Deed) :
    written (ds ++ es) = written ds ++ written es := List.flatMap_append

@[simp] theorem reported_append (ds es : List Deed) :
    reported (ds ++ es) = reported ds ++ reported es := List.filterMap_append

@[simp] theorem written_reports (rs : List LogRecord) : written (rs.map .report) = [] := by
  induction rs with
  | nil => rfl
  | cons r rs ih => exact ih

@[simp] theorem reported_reports (rs : List LogRecord) : reported (rs.map .report) = rs := by
  induction rs with
  | nil => rfl
  | cons r rs ih => exact congrArg (r :: ·) ih

end Deed

/-- A course: what is done, in order, and how it ends.  What is done before a fault is not
undone. -/
structure Course (α : Type) where
  deeds : List Deed
  result : Except Fault α

namespace Course

variable {α β : Type}

/-- One course and then the one that its value leads to, unless there is a fault. -/
def andThen (c : Course α) (k : α → Course β) : Course β :=
  match c.result with
  | .ok a => ⟨c.deeds ++ (k a).deeds, (k a).result⟩
  | .error f => ⟨c.deeds, .error f⟩

instance : Monad Course where
  pure a := ⟨[], .ok a⟩
  bind := andThen

/-- A step that does nothing that is seen, and may fail. -/
def attempt (e : Except Fault α) : Course α := ⟨[], e⟩

/-- Report records. -/
def report (rs : List LogRecord) : Course Unit := ⟨rs.map .report, .ok ()⟩

/-- Write a text. -/
def write (s : Text) : Course Unit := ⟨[.write s], .ok ()⟩

theorem bind_of_ok {c : Course α} {a : α} (h : c.result = .ok a) (k : α → Course β) :
    c >>= k = ⟨c.deeds ++ (k a).deeds, (k a).result⟩ := by
  show andThen c k = _
  unfold andThen
  rw [h]

theorem bind_of_error {c : Course α} {f : Fault} (h : c.result = .error f) (k : α → Course β) :
    c >>= k = ⟨c.deeds, .error f⟩ := by
  show andThen c k = _
  unfold andThen
  rw [h]

theorem attempt_ok_bind (a : α) (k : α → Course β) : attempt (.ok a) >>= k = k a := by
  rw [bind_of_ok rfl]
  rfl

theorem attempt_error_bind (f : Fault) (k : α → Course β) :
    attempt (.error f) >>= k = attempt (.error f) := by
  rw [bind_of_error rfl]
  rfl

@[simp] theorem deeds_pure (a : α) : (pure a : Course α).deeds = [] := rfl

@[simp] theorem result_pure (a : α) : (pure a : Course α).result = .ok a := rfl

/-! ## Silence -/

/-- Nothing is written. -/
def Silent (c : Course α) : Prop := ∀ s, Deed.write s ∉ c.deeds

/-- Nothing is written when there is a fault. -/
def AllOrNothing (c : Course α) : Prop := ∀ f, c.result = .error f → c.Silent

theorem Silent.written_eq {c : Course α} (h : c.Silent) : Deed.written c.deeds = [] := by
  apply List.flatMap_eq_nil_iff.mpr
  intro d hd
  cases d with
  | report r => rfl
  | write s => exact absurd hd (h s)

theorem silent_pure (a : α) : (pure a : Course α).Silent := by
  intro s hs
  exact List.not_mem_nil hs

theorem silent_attempt (e : Except Fault α) : (attempt e).Silent := by
  intro s hs
  exact List.not_mem_nil hs

theorem silent_report (rs : List LogRecord) : (report rs).Silent := by
  intro s hs
  obtain ⟨r, -, hr⟩ := List.mem_map.mp hs
  cases hr

/-- Silent courses one after the other are silent. -/
theorem Silent.bind {c : Course α} {k : α → Course β} (hc : c.Silent) (hk : ∀ a, (k a).Silent) :
    (c >>= k).Silent := by
  intro s hs
  cases hr : c.result with
  | error f =>
    rw [bind_of_error hr] at hs
    exact hc s hs
  | ok a =>
    rw [bind_of_ok hr] at hs
    rcases List.mem_append.mp hs with hs | hs
    · exact hc s hs
    · exact hk a s hs

theorem Silent.allOrNothing {c : Course α} (h : c.Silent) : c.AllOrNothing := by
  intro f _
  exact h

/-- A course that cannot fail writes all or nothing. -/
theorem allOrNothing_of_ok {c : Course α} {a : α} (h : c.result = .ok a) : c.AllOrNothing := by
  intro f hf
  rw [h] at hf
  cases hf

/-- A silent step may stand in front of a course that writes all or nothing. -/
theorem AllOrNothing.bind {c : Course α} {k : α → Course β} (hc : c.Silent)
    (hk : ∀ a, (k a).AllOrNothing) : (c >>= k).AllOrNothing := by
  intro f hf
  cases hr : c.result with
  | error f' =>
    rw [bind_of_error hr]
    exact hc
  | ok a =>
    rw [bind_of_ok hr] at hf ⊢
    intro s hs
    -- what is done by then is silent, and so is what follows, since it is that which fails
    rcases List.mem_append.mp hs with hs | hs
    · exact hc s hs
    · exact hk a f hf s hs

end Course

open Course

/-! ## Runs as courses -/

/-- Gather the sources that paths lead to, one path after the other. -/
def gatherAll (search : Search) (w : Workplace) : List Text → Course (List SourceFile)
  | [] => return []
  | given :: rest => do
    let here ← attempt ((search.gather w given).mapError .sources)
    let more ← gatherAll search w rest
    return here ++ more

/-- Scan sources one after the other; what is wrong with one is reported before the next. -/
def scanAll (st : Style) : List (Text × Text) → Course (List (Text × List Comment))
  | [] => return []
  | (name, text) :: rest => do
    report [scanRecord name]
    let scan := Scan.ofSource st text
    report scan.records
    let more ← scanAll st rest
    return (name, scan.comments) :: more

/-- Write what is made of sources with their comments; a value and the end of its line are written
one after the other. -/
def writeAll (s : Settings) (results : List (Text × List Comment)) : Course Unit :=
  match s.output with
  | .api => Course.write (results.flatMap fun (_, cs) => reference cs)
  | .json =>
    if fits s.indent then do
      Course.write (Json.write (.ofWidth s.indent) (payload results))
      Course.write ['\n']
    else attempt (.error .hugeIndent)

namespace Request

/-- The sources of a run with their names. -/
def gathered (q : Request) (s : Settings) (w : Workplace) (input : Text) :
    Course (List (Text × Text)) :=
  if q.paths.isEmpty then return [(standardInput, input)]
  else do
    let files ← gatherAll (Search.of s.extensions s.excludePaths) w q.paths
    report [Search.countRecord files.length]
    return files.map fun f => (f.relative, f.text)

/-- Do what is asked for, step by step. -/
def perform (reader : Yaml.Reader) (q : Request) (w : Workplace) (input : Text) :
    Course Unit := do
  let s ← attempt (q.settings reader w)
  let sources ← q.gathered s w input
  let results ← scanAll (styleFor s) sources
  writeAll s results

end Request

/-! ## All or nothing -/

theorem silent_gatherAll (search : Search) (w : Workplace) (paths : List Text) :
    (gatherAll search w paths).Silent := by
  induction paths with
  | nil => exact silent_pure []
  | cons given rest ih =>
    unfold gatherAll
    apply (silent_attempt _).bind
    intro here
    apply ih.bind
    intro more
    exact silent_pure _

theorem silent_scanAll (st : Style) (sources : List (Text × Text)) :
    (scanAll st sources).Silent := by
  induction sources with
  | nil => exact silent_pure []
  | cons source rest ih =>
    obtain ⟨name, text⟩ := source
    unfold scanAll
    apply (silent_report _).bind
    intro _
    apply (silent_report _).bind
    intro _
    apply ih.bind
    intro more
    exact silent_pure _

theorem allOrNothing_writeAll (s : Settings) (results : List (Text × List Comment)) :
    (writeAll s results).AllOrNothing := by
  unfold writeAll
  split
  · exact allOrNothing_of_ok rfl
  · split
    · -- two pieces are written, but neither can fail
      exact allOrNothing_of_ok rfl
    · exact (silent_attempt _).allOrNothing

namespace Request

variable {q : Request} {w : Workplace} {input : Text}

theorem silent_gathered (q : Request) (s : Settings) (w : Workplace) (input : Text) :
    (q.gathered s w input).Silent := by
  unfold gathered
  split
  · exact silent_pure _
  · apply (silent_gatherAll _ _ _).bind
    intro files
    apply (silent_report _).bind
    intro _
    exact silent_pure _

/-- A run that fails has written nothing. -/
theorem allOrNothing_perform (reader : Yaml.Reader) (q : Request) (w : Workplace) (input : Text) :
    (q.perform reader w input).AllOrNothing := by
  unfold perform
  apply AllOrNothing.bind (silent_attempt _)
  intro s
  apply AllOrNothing.bind (silent_gathered q s w input)
  intro sources
  apply AllOrNothing.bind (silent_scanAll _ _)
  intro results
  exact allOrNothing_writeAll s results

end Request

/-! ## A course and its run -/

/-- Gathering step by step is gathering. -/
theorem gatherAll_eq (search : Search) (w : Workplace) (paths : List Text) :
    gatherAll search w paths = attempt ((search.collect w paths).mapError Fault.sources) := by
  induction paths with
  | nil => rfl
  | cons given rest ih =>
    have hcollect : search.collect w (given :: rest) = do
        let here ← search.gather w given
        let more ← search.collect w rest
        return here ++ more := by
      unfold Search.collect
      rw [List.mapM_cons]
      cases search.gather w given with
      | error f => rfl
      | ok here =>
        cases rest.mapM (search.gather w) with
        | error f => rfl
        | ok more => rfl
    rw [gatherAll, ih, hcollect]
    cases search.gather w given with
    | error f => rfl
    | ok here =>
      cases search.collect w rest with
      | error f => rfl
      | ok more => rfl

/-- Scanning step by step reports, for every source, what is reported of it, and finds its
comments. -/
theorem scanAll_eq (st : Style) (sources : List (Text × Text)) :
    scanAll st sources =
      ⟨(sources.flatMap fun (name, text) =>
          scanRecord name :: (Scan.ofSource st text).records).map .report,
        .ok (sources.map fun (name, text) => (name, (Scan.ofSource st text).comments))⟩ := by
  induction sources with
  | nil => rfl
  | cons source rest ih =>
    obtain ⟨name, text⟩ := source
    rw [scanAll, bind_of_ok rfl, bind_of_ok rfl, ih, bind_of_ok rfl]
    simp [report]

/-- Writing step by step writes what is to be written. -/
theorem writeAll_spec (s : Settings) (results : List (Text × List Comment)) :
    Deed.reported (writeAll s results).deeds = [] ∧
      (writeAll s results).result.map (fun _ => Deed.written (writeAll s results).deeds) =
        writtenFor s results := by
  unfold writeAll writtenFor
  cases s.output with
  | api =>
    refine ⟨rfl, ?_⟩
    show Except.ok (_ ++ []) = _
    rw [List.append_nil]
  | json =>
    dsimp only
    split
    · exact ⟨rfl, rfl⟩
    · exact ⟨rfl, rfl⟩

namespace Request

/-- Gathering step by step reports nothing when it fails, and else how many sources there are. -/
theorem gathered_eq (q : Request) (s : Settings) (w : Workplace) (input : Text) :
    q.gathered s w input =
      match q.sources s w input with
      | .error f => attempt (.error f)
      | .ok (records, texts) => ⟨records.map .report, .ok texts⟩ := by
  unfold gathered sources
  by_cases hp : q.paths.isEmpty = true
  · rw [if_pos hp, if_pos hp]
    rfl
  · rw [if_neg hp, if_neg hp, gatherAll_eq]
    dsimp only
    cases (Search.of s.extensions s.excludePaths).collect w q.paths with
    | error f => rfl
    | ok files => rfl

/-- A run followed step by step is the run: it reports the same, in the same order, and when it
succeeds it has written its result. -/
theorem perform_eq_run (reader : Yaml.Reader) (q : Request) (w : Workplace) (input : Text) :
    Deed.reported (q.perform reader w input).deeds = (q.run reader w input).records ∧
      (q.perform reader w input).result.map
          (fun _ => Deed.written (q.perform reader w input).deeds) =
        (q.run reader w input).result := by
  unfold perform run
  cases hs : q.settings reader w with
  | error f =>
    rw [attempt_error_bind]
    exact ⟨rfl, rfl⟩
  | ok s =>
    rw [attempt_ok_bind, gathered_eq]
    cases hsources : q.sources s w input with
    | error f =>
      simp only [hsources, attempt_error_bind]
      exact ⟨rfl, rfl⟩
    | ok r =>
      obtain ⟨records, texts⟩ := r
      dsimp only
      rw [bind_of_ok rfl, scanAll_eq, bind_of_ok rfl]
      obtain ⟨hreported, hwritten⟩ := writeAll_spec s
        (texts.map fun (name, text) => (name, (Scan.ofSource (styleFor s) text).comments))
      simp only [hsources]
      constructor
      · simp [hreported, List.flatMap_map]
      · simp [hwritten, Function.comp_def]

end Request

/-! ## Calls -/

/-- A path that cannot be gathered is a fault, whatever the paths around it lead to. -/
theorem exists_error_gatherAll {search : Search} {w : Workplace} {given : Text} {f : SourceFault}
    (h : search.gather w given = .error f) {paths : List Text} (hm : given ∈ paths) :
    ∃ f', (gatherAll search w paths).result = .error f' := by
  induction paths with
  | nil => exact absurd hm List.not_mem_nil
  | cons first rest ih =>
    unfold gatherAll
    cases hfirst : search.gather w first with
    | error f' => exact ⟨.sources f', rfl⟩
    | ok here =>
      have hrest : given ∈ rest := by
        rcases List.mem_cons.mp hm with rfl | hrest
        · rw [h] at hfirst
          cases hfirst
        · exact hrest
      obtain ⟨f', hf'⟩ := ih hrest
      refine ⟨f', ?_⟩
      show (attempt (.ok here) >>= _).result = _
      rw [attempt_ok_bind, bind_of_error hf']

namespace Request

variable {reader : Yaml.Reader} {q : Request} {s : Settings} {w : Workplace}

/-- A run fails when one of its paths cannot be gathered. -/
theorem exists_error_perform (hs : q.settings reader w = .ok s) {given : Text}
    (hm : given ∈ q.paths) {f : SourceFault}
    (h : (Search.of s.extensions s.excludePaths).gather w given = .error f)
    (input : Text) : ∃ f', (q.perform reader w input).result = .error f' := by
  have hp : ¬ q.paths.isEmpty = true := by
    intro he
    rw [List.isEmpty_iff.mp he] at hm
    exact List.not_mem_nil hm
  obtain ⟨f', hf'⟩ := exists_error_gatherAll h hm
  have hgathered : (q.gathered s w input).result = .error f' := by
    unfold gathered
    rw [if_neg hp, bind_of_error hf']
  refine ⟨f', ?_⟩
  unfold perform
  rw [hs, attempt_ok_bind, bind_of_error hgathered]

end Request

theorem status?_ofFault_ne (f : Fault) : (Ending.ofFault f).status? ≠ some 0 := by
  unfold Ending.ofFault
  split <;> simp [Ending.status?]

section

variable {reader : Yaml.Reader} {w w' : Workplace} {d : Delivery} {arguments : List Text}
  {q : Request}

/-- The output of a call is what is written in its run, and the call succeeds when the run does. -/
theorem call_eq_perform (hq : Request.ofArguments arguments = .ok q)
    (hd : q.delivery w = .ok (w', d)) (time input : Text) :
    (call reader w time arguments input).output = Deed.written (q.perform reader w' input).deeds ∧
      ((call reader w time arguments input).ending.status? = some 0 ↔
        (q.perform reader w' input).result = .ok ()) := by
  obtain ⟨-, hrun⟩ := q.perform_eq_run reader w' input
  rw [call_eq_outcome hq]
  unfold Request.outcome
  rw [hd]
  dsimp only
  cases hp : (q.perform reader w' input).result with
  | error f =>
    have hsilent : (q.perform reader w' input).Silent := q.allOrNothing_perform reader w' input f hp
    have hresult : (q.run reader w' input).result = .error f := by
      rw [← hrun, hp]
      rfl
    rw [hresult]
    constructor
    · exact hsilent.written_eq.symm
    · constructor
      · intro hstatus
        exact absurd hstatus (status?_ofFault_ne f)
      · intro hok
        cases hok
  | ok u =>
    have hresult : (q.run reader w' input).result =
        .ok (Deed.written (q.perform reader w' input).deeds) := by
      rw [← hrun, hp]
      rfl
    rw [hresult]
    exact ⟨rfl, fun _ => rfl, fun _ => rfl⟩

end

/-- A call that does not end with the status of success has no output.  Where its run begins, the
output is what the run writes; so a run that fails never writes anything, whatever it has gathered
and scanned before, and it fails when one of its paths, or one of the files below a directory,
cannot be read. -/
theorem call_all_or_nothing (reader : Yaml.Reader) (w : Workplace) (time : Text)
    (arguments : List Text) (input : Text) :
    ((call reader w time arguments input).ending.status? ≠ some 0 →
      (call reader w time arguments input).output = []) ∧
    ∀ (q : Request) (w' : Workplace) (d : Delivery),
      Request.ofArguments arguments = .ok q → q.delivery w = .ok (w', d) →
      (call reader w time arguments input).output = Deed.written (q.perform reader w' input).deeds ∧
      ((call reader w time arguments input).ending.status? ≠ some 0 →
        ∀ t, Deed.write t ∉ (q.perform reader w' input).deeds) ∧
      ∀ s, q.settings reader w' = .ok s → ∀ given ∈ q.paths, ∀ f,
        (Search.of s.extensions s.excludePaths).gather w' given = .error f →
        (call reader w time arguments input).ending.status? ≠ some 0 := by
  have hrun : ∀ (q : Request) (w' : Workplace) (d : Delivery),
      Request.ofArguments arguments = .ok q → q.delivery w = .ok (w', d) →
      (call reader w time arguments input).ending.status? ≠ some 0 →
        (q.perform reader w' input).Silent := by
    intro q w' d hq hd hstatus
    obtain ⟨-, hiff⟩ := call_eq_perform hq hd time input
    cases hp : (q.perform reader w' input).result with
    | error f => exact q.allOrNothing_perform reader w' input f hp
    | ok u => exact absurd (hiff.mpr hp) hstatus
  constructor
  · intro hstatus
    cases hq : Request.ofArguments arguments with
    | error halt =>
      cases halt with
      | help =>
        -- help is the one output without a run, and it is a success
        exact absurd (by simp [call, hq, Ending.status?]) hstatus
      | misuse m => simp [call, hq]
    | ok q =>
      cases hd : q.delivery w with
      | error f => simp [call, hq, Request.outcome, hd]
      | ok r =>
        obtain ⟨w', d⟩ := r
        rw [(call_eq_perform hq hd time input).1]
        exact (hrun q w' d hq hd hstatus).written_eq
  · intro q w' d hq hd
    obtain ⟨houtput, hiff⟩ := call_eq_perform hq hd time input
    refine ⟨houtput, hrun q w' d hq hd, ?_⟩
    intro s hs given hm f hf hstatus
    obtain ⟨f', hf'⟩ := Request.exists_error_perform hs hm hf input
    rw [hiff.mp hstatus] at hf'
    cases hf'

/-! ## A source and a file that is none -/

/-- A directory `a` with a source, and a directory `b` with a file that holds no text. -/
def secondSpoilt : Workplace where
  files := .directory
    [(['a'], .directory [("x.js".toList, .file (Utf8.encode firstText))]),
      (['b'], .directory [("y.js".toList, .file [0xFF])])]
  here := []
  home := []

/-- The source of the first directory is gathered, but the call fails for the second one and writes
nothing. -/
theorem call_all_or_nothing_secondSpoilt :
    ∃ (s : Settings) (files : List SourceFile) (f : SourceFault),
      Request.ofArguments ["--raw".toList, ['a'], ['b']] = .ok bothSources ∧
      (∃ d, bothSources.delivery secondSpoilt = .ok (secondSpoilt, d)) ∧
      bothSources.settings Yaml.read secondSpoilt = .ok s ∧
      (Search.of s.extensions s.excludePaths).gather secondSpoilt ['a'] = .ok files ∧
      files.length = 1 ∧
      (Search.of s.extensions s.excludePaths).gather secondSpoilt ['b'] = .error f ∧
      (call Yaml.read secondSpoilt [] ["--raw".toList, ['a'], ['b']] []).ending.status? ≠ some 0 ∧
      (call Yaml.read secondSpoilt [] ["--raw".toList, ['a'], ['b']] []).output = [] ∧
      ∀ t, Deed.write t ∉ (bothSources.perform Yaml.read secondSpoilt []).deeds := by
  have hs : bothSources.settings Yaml.read secondSpoilt = .ok { raw := true } :=
    Request.settings_of_absent rfl (.nil _) rfl
  have ha : Path.ofText ['a'] = ⟨false, [['a']]⟩ := by decide +kernel
  have hb : Path.ofText ['b'] = ⟨false, [['b']]⟩ := by decide +kernel
  have hfirst := Search.gather_single (w := secondSpoilt) (p := ⟨false, [['a']]⟩)
    (Search.of [".js".toList] []) ['a'] (by rw [ha]; rfl)
    (.cons (by decide) rfl (fun _ => FileTree.noConfusion) (.nil _)) (by decide) (by decide +kernel)
    (s := firstText) (by decide +kernel)
  have hsecond := Search.gather_undecodable (w := secondSpoilt) (p := ⟨false, [['b']]⟩)
    (Search.of [".js".toList] []) ['b'] (by rw [hb]; rfl)
    (.cons (by decide) rfl (fun _ => FileTree.noConfusion) (.nil _)) (by decide) (by decide +kernel)
    (f := ⟨0, 1, 0xFF, .invalidStart⟩) (by decide +kernel)
  obtain ⟨hnothing, hcourse⟩ :=
    call_all_or_nothing Yaml.read secondSpoilt [] ["--raw".toList, ['a'], ['b']] []
  obtain ⟨-, hsilent, hfails⟩ := hcourse _ _ _ ofArguments_bothSources rfl
  have hstatus := hfails _ hs ['b'] (by decide) _ hsecond
  exact ⟨_, _, _, ofArguments_bothSources, ⟨_, rfl⟩, hs, hfirst, rfl, hsecond, hstatus,
    hnothing hstatus, hsilent hstatus⟩

end Docblock.CommandLine
