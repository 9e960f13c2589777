/-
# Docblock.Proofs.CommandLine.Breakdown — which calls break off for their settings.

A fault that nothing is told of makes a call break off.  Sources have no such fault, whatever is in
them; settings have some.  Main statement: once delivery is set up, a call breaks off for a fault in
its settings exactly when what is at their path has one that is not told, and besides only because
of an indentation that is too wide (`call_tells_iff`).
-/
import Docblock.Proofs.CommandLine.Output
import Docblock.Proofs.Settings.Report

namespace Docblock.CommandLine

namespace Request

variable {reader : Yaml.Reader} {q : Request} {s : Settings} {w w' : Workplace} {d : Delivery}
  {p : Path} {time input : Text}

/-- A request has no settings exactly when none can be loaded. -/
theorem settings_eq_error_iff (hp : q.settingsPath? w = some p) {f : Fault} :
    q.settings reader w = .error f ↔
      ∃ g, f = .settings g ∧ Settings.load reader w p = .error g := by
  rw [settings_eq hp]
  cases hl : Settings.load reader w p with
  | error g =>
    constructor
    · intro h
      cases h
      exact ⟨g, rfl, rfl⟩
    · rintro ⟨g', rfl, hg⟩
      cases hg
      rfl
  | ok l =>
    refine iff_of_false (fun h => by cases h) ?_
    rintro ⟨g, -, hg⟩
    cases hg

/-- A request breaks off for a fault of its run that is not told. -/
theorem ending_eq_breakdown_iff (hd : q.delivery w = .ok (w', d)) {f : Fault} :
    (q.outcome reader w time input).ending = .breakdown f ↔
      (q.run reader w' input).result = .error f ∧ f.message? = none := by
  unfold outcome
  rw [hd]
  cases hr : (q.run reader w' input).result with
  | ok output => simp [hr]
  | error g =>
    have hending : Ending.ofFault g = .breakdown f ↔ g = f ∧ f.message? = none := by
      unfold Ending.ofFault
      cases hm : g.message? with
      | none =>
        constructor
        · intro h
          cases h
          exact ⟨rfl, hm⟩
        · rintro ⟨rfl, -⟩
          rfl
      | some m =>
        refine iff_of_false (fun h => by cases h) ?_
        rintro ⟨rfl, hf⟩
        cases hm.symm.trans hf
    simp only [hr, hending, Except.error.injEq]

theorem run_result_eq_error_iff {f : Fault} :
    (q.run reader w input).result = .error f ↔
      q.settings reader w = .error f ∨
      ∃ s, q.settings reader w = .ok s ∧
        (q.sources s w input = .error f ∨
          ∃ records sources, q.sources s w input = .ok (records, sources) ∧
            writtenFor s (scanned s sources) = .error f) := by
  unfold run
  cases hs : q.settings reader w with
  | error g => simp
  | ok s =>
    cases hsources : q.sources s w input with
    | error g => simp [hsources]
    | ok r =>
      obtain ⟨records, texts⟩ := r
      simp [hsources, scanned, Function.comp_def]

/-- Sources that cannot be gathered have a fault of their own. -/
theorem exists_of_sources_eq_error {f : Fault} (h : q.sources s w input = .error f) :
    ∃ g, f = .sources g := by
  unfold sources at h
  split at h
  · cases h
  · dsimp only at h
    cases hc : (Search.of s.extensions s.excludePaths).collect w q.paths with
    | error g =>
      rw [hc] at h
      cases h
      exact ⟨g, rfl⟩
    | ok files =>
      rw [hc] at h
      cases h

end Request

theorem writtenFor_eq_error_iff {s : Settings} {results : List (Text × List Comment)} {f : Fault} :
    writtenFor s results = .error f ↔
      f = .hugeIndent ∧ s.output = .json ∧ fits s.indent = false := by
  unfold writtenFor
  split
  · next ho => simp [ho]
  · next ho =>
    cases hf : fits s.indent with
    | true => simp
    | false => simp [ho, eq_comm]

/-- Of the sources nothing is told only when the home directory of an unknown user is asked for. -/
theorem message?_sources_eq_none_iff {g : SourceFault} :
    (Fault.sources g).message? = none ↔ g = .unknownUser := by
  cases g <;> simp [Fault.message?, SourceFault.message?]

variable {reader : Yaml.Reader} {w w' : Workplace} {time input : Text} {arguments : List Text}
  {q : Request} {d : Delivery} {p file : Path}

/-- **Settings that break a call off.**  Whatever the documents are read with: all faults of the
settings are told, and no call breaks off for one, exactly when all faults of what is at their path
are told.  A call breaks off for what can be set, too, when its output is to be indented further
than any text is wide; what is in a source never makes it break off. -/
theorem call_tells_iff (hq : Request.ofArguments arguments = .ok q)
    (hd : q.delivery w = .ok (w', d)) (hp : q.settingsPath? w' = some p)
    (hf : Settings.fileOf w' p = .ok file) :
    ((∀ f, Settings.load reader w' p = .error f → f.message?.isSome = true) ↔
      Settings.Reports reader w' file) ∧
    ((∀ f, (call reader w time arguments input).ending ≠ .breakdown (.settings f)) ↔
      Settings.Reports reader w' file) ∧
    ((call reader w time arguments input).ending = .breakdown .hugeIndent ↔
      ∃ s records sources, q.settings reader w' = .ok s ∧
        q.sources s w' input = .ok (records, sources) ∧ s.output = .json ∧ fits s.indent = false) ∧
    ∀ f, (call reader w time arguments input).ending = .breakdown f →
      (∃ g, f = .settings g) ∨ f = .hugeIndent ∨ f = .sources .unknownUser := by
  have hcall : (call reader w time arguments input).ending =
      (q.outcome reader w time input).ending :=
    congrArg Outcome.ending (call_eq_outcome hq reader w time input)
  have hreports : (∀ f, Settings.load reader w' p = .error f → f.message?.isSome = true) ↔
      Settings.Reports reader w' file := Settings.load_reports_iff hf
  have hsettings {g : Settings.Fault} : (call reader w time arguments input).ending =
      .breakdown (.settings g) ↔ Settings.load reader w' p = .error g ∧ g.message? = none := by
    rw [hcall, Request.ending_eq_breakdown_iff hd]
    -- the later steps of a run have faults of other kinds
    refine and_congr_left fun _ => ?_
    rw [Request.run_result_eq_error_iff, Request.settings_eq_error_iff hp]
    constructor
    · rintro (⟨g', hg, hl⟩ | ⟨s, -, hs | ⟨records, sources, -, hs⟩⟩)
      · cases hg
        exact hl
      · obtain ⟨g', hg⟩ := Request.exists_of_sources_eq_error hs
        cases hg
      · cases (writtenFor_eq_error_iff.mp hs).1
    · exact fun hl => .inl ⟨g, rfl, hl⟩
  refine ⟨hreports, ?_, ?_, ?_⟩
  · rw [← hreports]
    constructor
    · intro h f hf
      cases hm : f.message? with
      | none => exact absurd (hsettings.mpr ⟨hf, hm⟩) (h f)
      | some m => rfl
    · intro h f hbreak
      obtain ⟨hf, hm⟩ := hsettings.mp hbreak
      have := h f hf
      rw [hm] at this
      cases this
  · rw [hcall, Request.ending_eq_breakdown_iff hd, Request.run_result_eq_error_iff,
      Request.settings_eq_error_iff hp]
    constructor
    · rintro ⟨⟨g, hg, -⟩ | ⟨s, hs, hsources | ⟨records, sources, hsources, hwritten⟩⟩, -⟩
      · cases hg
      · obtain ⟨g, hg⟩ := Request.exists_of_sources_eq_error hsources
        cases hg
      · exact ⟨s, records, sources, hs, hsources, (writtenFor_eq_error_iff.mp hwritten).2⟩
    · rintro ⟨s, records, sources, hs, hsources, hwritten⟩
      exact ⟨.inr ⟨s, hs, .inr ⟨records, sources, hsources,
        writtenFor_eq_error_iff.mpr ⟨rfl, hwritten⟩⟩⟩, rfl⟩
  · intro f h
    rw [hcall, Request.ending_eq_breakdown_iff hd, Request.run_result_eq_error_iff,
      Request.settings_eq_error_iff hp] at h
    obtain ⟨⟨g, hg, -⟩ | ⟨s, -, hsources | ⟨records, sources, -, hwritten⟩⟩, hm⟩ := h
    · exact .inl ⟨g, hg⟩
    · obtain ⟨g, rfl⟩ := Request.exists_of_sources_eq_error hsources
      exact .inr (.inr (congrArg Fault.sources (message?_sources_eq_none_iff.mp hm)))
    · exact .inr (.inl (writtenFor_eq_error_iff.mp hwritten).1)

/-- A directory whose settings file is one octet, with which no character begins. -/
theorem call_tells_iff_undecodable :
    ∃ (w : Workplace) (q : Request) (d : Delivery) (p file : Path),
      Request.ofArguments [] = .ok q ∧ q.delivery w = .ok (w, d) ∧ q.settingsPath? w = some p ∧
      Settings.fileOf w p = .ok file ∧ ¬ Settings.Reports Yaml.read w file ∧
      ∃ f, (call Yaml.read w [] [] []).ending = .breakdown (.settings f) := by
  have hq : Request.ofArguments [] = .ok {} := by decide +kernel
  have hroot : (FileTree.directory [(Settings.fileName, .file [0xFF])]).Leads []
      (.directory [(Settings.fileName, .file [0xFF])]) := .nil _
  have hlookup : [(Settings.fileName, FileTree.file [0xFF])].lookup Settings.fileName =
      some (.file [0xFF]) := rfl
  have hl : ∀ p, FileTree.file [0xFF] ≠ .link p := fun _ => FileTree.noConfusion
  obtain ⟨-, -, hfile⟩ := Settings.leadsOn_of_present
    (w := ⟨.directory [(Settings.fileName, .file [0xFF])], [], []⟩) hroot hlookup hl
  have hreports : ¬ Settings.Reports Yaml.read
      ⟨.directory [(Settings.fileName, .file [0xFF])], [], []⟩
      (.ofParts ([] ++ [Settings.fileName])) := by
    rw [Settings.reports_iff_of_present hroot hlookup hl]
    rintro ⟨os, s, hos, hs, -⟩
    cases hos
    cases hs
  have htells : ((∀ f, (call Yaml.read
      ⟨.directory [(Settings.fileName, .file [0xFF])], [], []⟩ [] [] []).ending ≠
        .breakdown (.settings f)) ↔ Settings.Reports Yaml.read _ _) :=
    (call_tells_iff hq rfl rfl hfile).2.1
  obtain ⟨f, hf⟩ := not_forall.mp (htells.not.mpr hreports)
  exact ⟨_, _, _, _, _, hq, rfl, rfl, hfile, hreports, f, not_not.mp hf⟩

end Docblock.CommandLine
