/-
# Docblock.Proofs.CommandLine.Output — what a call writes that succeeds.

A call succeeds when each of its steps does: delivery is set up, the settings are read, the sources
are gathered, and what is made of them can be written.  What it writes as JSON can be read back.
Main statement: read back, it is the comments of the one source that was gathered, or an object that
holds, for each name of a source, the comments of the last source of that name; so all sources are
in it when their names differ, and only then (`call_decoded`).
-/
import Docblock.Proofs.Collection.Gather
import Docblock.Proofs.CommandLine.Payload
import Docblock.Proofs.Settings.Load

namespace Docblock.CommandLine

/-! ## Runs that succeed -/

/-- Sources with the comments in them. -/
def scanned (s : Settings) (sources : List (Text × Text)) : List (Text × List Comment) :=
  sources.map fun (name, text) => (name, (Scan.ofSource (styleFor s) text).comments)

namespace Request

variable {reader : Yaml.Reader} {q : Request} {s : Settings} {w : Workplace}
  {time input output : Text}

/-- A run has a result when the settings can be read, the sources gathered, and what is in them
written. -/
theorem run_result_eq_ok_iff :
    (q.run reader w input).result = .ok output ↔
      ∃ s records sources, q.settings reader w = .ok s ∧
        q.sources s w input = .ok (records, sources) ∧
        writtenFor s (scanned s sources) = .ok output := by
  unfold run
  cases hs : q.settings reader w with
  | error f => simp
  | ok s =>
    cases hsources : q.sources s w input with
    | error f => simp [hsources]
    | ok r =>
      obtain ⟨records, texts⟩ := r
      simp [hsources, scanned, Function.comp_def]

theorem ofFault_ne_success (f : Fault) : Ending.ofFault f ≠ .success := by
  unfold Ending.ofFault
  split <;> exact Ending.noConfusion

/-- A request succeeds when delivery can be set up and the run has a result, which is its output. -/
theorem outcome_success_iff :
    ((q.outcome reader w time input).ending = .success ∧
        (q.outcome reader w time input).output = output) ↔
      ∃ w' d, q.delivery w = .ok (w', d) ∧ (q.run reader w' input).result = .ok output := by
  unfold outcome
  cases hd : q.delivery w with
  | error f => simp
  | ok r =>
    obtain ⟨w', d⟩ := r
    cases hr : (q.run reader w' input).result with
    | error f => simp [hr, ofFault_ne_success]
    | ok o => simp [hr]

/-- With paths the sources are the files that are gathered, under their relative names. -/
theorem sources_eq_ok_iff (hp : q.paths ≠ []) {records : List LogRecord}
    {texts : List (Text × Text)} :
    q.sources s w input = .ok (records, texts) ↔
      ∃ files, (Search.of s.extensions s.excludePaths).collect w q.paths = .ok files ∧
        records = [Search.countRecord files.length] ∧
        texts = files.map fun f => (f.relative, f.text) := by
  have hne : q.paths.isEmpty = false := List.isEmpty_eq_false_iff.mpr hp
  unfold Request.sources
  rw [hne]
  cases hc : (Search.of s.extensions s.excludePaths).collect w q.paths with
  | error f =>
    have hmap : ∀ g : SourceFault → Fault,
        (Except.error f : Except SourceFault (List SourceFile)).mapError g = .error (g f) :=
      fun _ => rfl
    simp [hmap, bind, Except.bind, hc]
  | ok files =>
    have hmap : ∀ g : SourceFault → Fault,
        (Except.ok files : Except SourceFault (List SourceFile)).mapError g = .ok files :=
      fun _ => rfl
    simp [hmap, bind, Except.bind, pure, Except.pure, hc, eq_comm]

/-- The path that the settings of a request are loaded from, if it names one. -/
def settingsPath? (q : Request) (w : Workplace) : Option Path :=
  match q.config with
  | .absent => some (.ofParts w.here)
  | .blank => none
  | .value s => some (.ofText s)

/-- The settings of a request, given those that are loaded. -/
def overlay (q : Request) (s : Settings) : Settings :=
  { s with
    raw := q.raw || s.raw
    output := if q.api then .api else s.output
    indent :=
      match q.indent with
      | .absent => s.indent
      | .blank => 0
      | .value i => i }

theorem settings_eq {p : Path} (hp : q.settingsPath? w = some p) :
    q.settings reader w =
      (fun l => q.overlay l.settings) <$> (Settings.load reader w p).mapError Fault.settings := by
  have hload (path : Path) : (do
      let l ← (Settings.load reader w path).mapError Fault.settings
      return q.overlay l.settings) =
        (fun l => q.overlay l.settings) <$>
          (Settings.load reader w path).mapError Fault.settings := by
    cases Settings.load reader w path <;> rfl
  unfold settingsPath? at hp
  unfold settings
  cases hc : q.config with
  | absent =>
    simp only [hc, Option.some.injEq] at hp
    subst hp
    exact hload (.ofParts w.here)
  | blank => simp [hc] at hp
  | value s =>
    simp only [hc, Option.some.injEq] at hp
    subst hp
    exact hload (.ofText s)

/-- When no settings file is named, the settings are those of the directory, changed where the
arguments say so. -/
theorem settings_of_load {l : Settings.Loaded} (hq : q.config = .absent)
    (h : Settings.load reader w (.ofParts w.here) = .ok l) :
    q.settings reader w = .ok (q.overlay l.settings) := by
  have hpath : q.settingsPath? w = some (.ofParts w.here) := by
    unfold settingsPath?
    rw [hq]
  rw [settings_eq hpath, h]
  rfl

/-- Without a settings file, and when none is named, the settings are the usual ones and those that
the arguments give. -/
theorem settings_of_absent {es : List (Text × FileTree)} (hq : q.config = .absent)
    (h : w.files.Leads w.here (.directory es)) (ha : es.lookup Settings.fileName = none) :
    q.settings reader w = .ok
      { raw := q.raw
        output := if q.api then .api else .json
        indent :=
          match q.indent with
          | .absent => 2
          | .blank => 0
          | .value i => i } := by
  rw [settings_of_load hq (Settings.load_of_absent h ha)]
  simp only [overlay, Bool.or_false]

end Request

/-- A call whose arguments make a request ends as the request does. -/
theorem call_eq_outcome {arguments : List Text} {q : Request}
    (hq : Request.ofArguments arguments = .ok q) (reader : Yaml.Reader) (w : Workplace)
    (time input : Text) :
    call reader w time arguments input = q.outcome reader w time input := by
  unfold call
  rw [hq]

/-! ## What is written is read back -/

theorem writtenFor_of_fits {s : Settings} (hs : s.output = .json) (hf : fits s.indent = true)
    (results : List (Text × List Comment)) :
    writtenFor s results = .ok (Json.write (.ofWidth s.indent) (payload results) ++ ['\n']) := by
  unfold writtenFor
  rw [hs]
  exact if_pos hf

theorem read_of_writtenFor {s : Settings} {results : List (Text × List Comment)} {output : Text}
    (h : writtenFor s results = .ok output) (hs : s.output = .json) :
    Json.read output = .ok (payload results) := by
  unfold writtenFor at h
  rw [hs] at h
  dsimp only at h
  split at h
  · rw [← Except.ok.inj h]
    exact Json.read_write (numberFree_payload results) _
  · exact absurd h (by simp)

/-- The member for a source: its relative name, and the comments in it. -/
def memberOf (s : Settings) (f : SourceFile) : Text × Json :=
  (f.relative, commentsJson (Scan.ofSource (styleFor s) f.text).comments)

/-- A call that succeeds writes the comments of the one source that it gathered, or else an object
with the comments of the last source of each name; all sources are in it, each with a member of its
own, when their names differ, and only then. -/
theorem call_decoded {reader : Yaml.Reader} {w : Workplace} {time input : Text}
    {arguments : List Text} {q : Request}
    (hq : Request.ofArguments arguments = .ok q) (hp : q.paths ≠ [])
    (hc : (call reader w time arguments input).ending = .success) :
    ∃ w' d s files,
      q.delivery w = .ok (w', d) ∧ q.settings reader w' = .ok s ∧
      (Search.of s.extensions s.excludePaths).collect w' q.paths = .ok files ∧
      (s.output = .json → ∃ v, Json.read (call reader w time arguments input).output = .ok v ∧
        (∀ f, files = [f] → v = (memberOf s f).2) ∧
        (files.length ≠ 1 → ∃ ms, v = .object ms ∧ (names ms).Nodup ∧
          (∀ name, ms.lookup name = (files.map (memberOf s)).reverse.lookup name) ∧
          ((ms.length = files.length ∧ ∀ f ∈ files, memberOf s f ∈ ms) ↔
            (files.map SourceFile.relative).Nodup))) := by
  rw [call_eq_outcome hq] at hc ⊢
  -- a call that succeeds has passed all of its steps
  obtain ⟨w', d, hd, hrun⟩ := Request.outcome_success_iff.mp ⟨hc, rfl⟩
  obtain ⟨s, records, texts, hs, htexts, hout⟩ := Request.run_result_eq_ok_iff.mp hrun
  obtain ⟨files, hfiles, -, rfl⟩ := (Request.sources_eq_ok_iff hp).mp htexts
  refine ⟨w', d, s, files, hd, hs, hfiles, fun hjson => ?_⟩
  refine ⟨_, read_of_writtenFor hout hjson, ?_, fun hlen => ?_⟩
  · rintro f rfl
    rfl
  · have hmembers : (scanned s (files.map fun f => (f.relative, f.text))).map
        (fun r => (r.1, commentsJson r.2)) = files.map (memberOf s) := by
      rw [scanned, List.map_map, List.map_map]
      rfl
    have hpayload : payload (scanned s (files.map fun f => (f.relative, f.text))) = _ :=
      payload_of_length_ne_one (by simpa [scanned] using hlen)
    rw [hmembers] at hpayload
    have hnames : names (files.map (memberOf s)) = files.map SourceFile.relative := by
      rw [names, List.map_map]
      rfl
    refine ⟨_, hpayload, nodup_names_setAll List.nodup_nil, fun name => ?_, ?_⟩
    · rw [lookup_setAll]
      exact Option.or_none
    · have := setAll_holds_all_iff (files.map (memberOf s))
      rwa [List.length_map, List.forall_mem_map, hnames] at this

/-! ## Two directories with a source in each -/

/-- The text of the one source. -/
def firstText : Text := "/** A */\nvar a;\n".toList

/-- The text of the other source. -/
def secondText : Text := "/** B */\nvar b;\n".toList

/-- A directory `a` with a source of the name `m`, and a directory `b` with one of the name `n`. -/
def twoSources (m n : Text) : Workplace where
  files := .directory
    [(['a'], .directory [(m, .file (Utf8.encode firstText))]),
      (['b'], .directory [(n, .file (Utf8.encode secondText))])]
  here := []
  home := []

/-- Both directories are asked for. -/
def bothSources : Request := { paths := [['a'], ['b']], raw := true }

/-- Names of sources that a search finds under the usual settings. -/
structure Usual (m : Text) : Prop where
  not_up : m ≠ "..".toList
  wanted : (Search.of [".js".toList] []).wantsFile m m = true

theorem ofArguments_bothSources :
    Request.ofArguments ["--raw".toList, ['a'], ['b']] = .ok bothSources := by
  decide +kernel

section

variable (reader : Yaml.Reader) {m n : Text}

theorem settings_twoSources (m n : Text) :
    bothSources.settings reader (twoSources m n) = .ok { raw := true } :=
  Request.settings_of_absent rfl (.nil _) rfl

theorem collect_twoSources (hm : Usual m) (hn : Usual n) :
    (Search.of [".js".toList] []).collect (twoSources m n) [['a'], ['b']] = .ok
      [⟨.ofParts [['a'], m], m, firstText⟩, ⟨.ofParts [['b'], n], n, secondText⟩] := by
  have ha : Path.ofText ['a'] = ⟨false, [['a']]⟩ := by decide +kernel
  have hb : Path.ofText ['b'] = ⟨false, [['b']]⟩ := by decide +kernel
  have hga := Search.gather_single (w := twoSources m n) (p := ⟨false, [['a']]⟩)
    (Search.of [".js".toList] []) ['a'] (by rw [ha]; rfl)
    (.cons (by decide) rfl (fun _ => FileTree.noConfusion) (.nil _)) hm.not_up hm.wanted
    (s := firstText) (by decide +kernel)
  have hgb := Search.gather_single (w := twoSources m n) (p := ⟨false, [['b']]⟩)
    (Search.of [".js".toList] []) ['b'] (by rw [hb]; rfl)
    (.cons (by decide) rfl (fun _ => FileTree.noConfusion) (.nil _)) hn.not_up hn.wanted
    (s := secondText) (by decide +kernel)
  have hta : unifyNewlines firstText = firstText := by decide +kernel
  have htb : unifyNewlines secondText = secondText := by decide +kernel
  unfold Search.collect
  rw [List.mapM_cons, List.mapM_cons, List.mapM_nil, hga, hgb, hta, htb]
  rfl

/-- The call succeeds and writes the payload of the two sources. -/
theorem call_twoSources (hm : Usual m) (hn : Usual n) :
    (call reader (twoSources m n) [] ["--raw".toList, ['a'], ['b']] []).ending = .success ∧
      Json.read (call reader (twoSources m n) [] ["--raw".toList, ['a'], ['b']] []).output =
        .ok (payload (scanned { raw := true } [(m, firstText), (n, secondText)])) := by
  have hwritten := writtenFor_of_fits (s := { raw := true }) rfl (by decide)
    (scanned { raw := true } [(m, firstText), (n, secondText)])
  have hsources : bothSources.sources { raw := true } (twoSources m n) [] = .ok (_, _) :=
    (Request.sources_eq_ok_iff (List.cons_ne_nil _ _)).mpr
      ⟨_, collect_twoSources hm hn, rfl, rfl⟩
  have hresult := Request.run_result_eq_ok_iff.mpr
    ⟨_, _, _, settings_twoSources reader m n, hsources, hwritten⟩
  have houtcome : (bothSources.outcome reader (twoSources m n) [] []).ending = .success ∧ _ = _ :=
    Request.outcome_success_iff.mpr ⟨_, _, rfl, hresult⟩
  obtain ⟨hsuccess, houtput⟩ := houtcome
  rw [call_eq_outcome ofArguments_bothSources]
  exact ⟨hsuccess, houtput ▸ read_of_writtenFor hwritten rfl⟩

end

/-- Two sources whose names differ are both written. -/
theorem call_decoded_twoSources :
    ∃ (w : Workplace) (arguments : List Text) (q : Request) (s : Settings) (files : List SourceFile)
      (ms : List (Text × Json)),
      Request.ofArguments arguments = .ok q ∧ q.paths ≠ [] ∧
      (call Yaml.read w [] arguments []).ending = .success ∧
      files.map SourceFile.relative = ["x.js".toList, "y.js".toList] ∧
      (Search.of s.extensions s.excludePaths).collect w q.paths = .ok files ∧
      Json.read (call Yaml.read w [] arguments []).output = .ok (.object ms) ∧
      ms.length = files.length ∧ ∀ f ∈ files, memberOf s f ∈ ms := by
  have hx : Usual "x.js".toList := ⟨by decide, by decide +kernel⟩
  have hy : Usual "y.js".toList := ⟨by decide, by decide +kernel⟩
  have hp : bothSources.paths ≠ [] := List.cons_ne_nil _ _
  have hc := (call_twoSources Yaml.read hx hy).1
  obtain ⟨w', d, s, files, hd, hs, hfiles, hout⟩ := call_decoded ofArguments_bothSources hp hc
  -- delivery leaves the files alone, and the settings are the usual ones
  obtain ⟨rfl, -⟩ := Prod.mk.inj (Except.ok.inj hd)
  obtain rfl := Except.ok.inj ((settings_twoSources _ _ _).symm.trans hs)
  obtain rfl := Except.ok.inj ((collect_twoSources hx hy).symm.trans hfiles)
  obtain ⟨v, hv, -, hmany⟩ := hout rfl
  obtain ⟨ms, rfl, -, -, hiff⟩ := hmany (by decide)
  obtain ⟨hlen, hall⟩ := hiff.mpr (by decide)
  exact ⟨_, _, _, _, _, ms, ofArguments_bothSources, hp, hc, rfl, hfiles, hv, hlen, hall⟩

/-- Of two sources with one name the first is lost, whatever reads the settings. -/
theorem not_call_holds_all :
    ¬ ∃ reader : Yaml.Reader, ∀ (w : Workplace) (time input : Text) (arguments : List Text)
      (q : Request) (w' : Workplace) (d : Delivery) (s : Settings) (files : List SourceFile),
      Request.ofArguments arguments = .ok q → q.paths ≠ [] →
      (call reader w time arguments input).ending = .success →
      q.delivery w = .ok (w', d) → q.settings reader w' = .ok s → s.output = .json →
      (Search.of s.extensions s.excludePaths).collect w' q.paths = .ok files → files.length ≠ 1 →
      ∃ ms, Json.read (call reader w time arguments input).output = .ok (.object ms) ∧
        ms.length = files.length ∧ ∀ f ∈ files, memberOf s f ∈ ms := by
  rintro ⟨reader, h⟩
  have hx : Usual "x.js".toList := ⟨by decide, by decide +kernel⟩
  obtain ⟨hc, hread⟩ := call_twoSources reader hx hx
  obtain ⟨ms, hms, hlen, -⟩ := h _ _ _ _ _ _ _ _ _ ofArguments_bothSources (List.cons_ne_nil _ _)
    hc rfl (settings_twoSources _ _ _) rfl (collect_twoSources hx hx) (by decide)
  rw [hread] at hms
  obtain rfl := Json.object.inj (Except.ok.inj hms)
  exact absurd hlen (by decide)

end Docblock.CommandLine
