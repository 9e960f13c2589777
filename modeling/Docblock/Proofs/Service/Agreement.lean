/-
# Docblock.Proofs.Service.Agreement — a call and a request are told the same.

The comments of a source, and the reference made of them, can be had in two ways: from a call that
reads the source as its input, and from a request with the source in its body.  The two choose how
descriptions are treated by rules of their own, one by settings and options, the other by a member
of the body.  Main statement: where no settings file changes anything, both ways give the same
comments and the same reference; and the reference that a call gives is the same under all settings
(`call_agrees_respond`).
-/
import Docblock.Proofs.CommandLine.Output
import Docblock.Proofs.Yaml.Flat
import Docblock.Service

namespace Docblock

namespace Service

open Json (NumberFree)

/-! ## Bodies -/

/-- `HasMembers body ms` says that a body can be read and that its members of the given names have
the given values; there may be more of them, in any order and with any space between them. -/
def HasMembers (body : Text) (ms : List (String × Json)) : Prop :=
  ∃ v, Json.read body = .ok v ∧ ∀ m ∈ ms, v.member? m.1.toList = some m.2

variable {body source : Text} {raw : Bool}

/-- Whatever is written for a value holds the members of the value. -/
theorem hasMembers_write {v : Json} (h : NumberFree v) {ms : List (String × Json)}
    (hms : ∀ m ∈ ms, v.member? m.1.toList = some m.2) (l : Json.Layout) :
    HasMembers (Json.write l v) ms := by
  refine ⟨v, ?_, hms⟩
  have hread := Json.read_write_append h l (w := []) fun c hc => absurd hc List.not_mem_nil
  rwa [List.append_nil] at hread

/-- A source can be asked for in every layout. -/
theorem exists_hasMembers (source : Text) (raw : Bool) :
    ∃ body, HasMembers body [("source", .string source), ("raw", .bool raw)] := by
  have hfree : NumberFree
      (.object [("source".toList, .string source), ("raw".toList, .bool raw)]) := by
    apply NumberFree.object
    simp only [List.forall_mem_cons]
    exact ⟨.string source, .bool raw, fun _ h => absurd h List.not_mem_nil⟩
  refine ⟨_, hasMembers_write hfree ?_ .oneLine⟩
  simp only [List.forall_mem_cons]
  exact ⟨rfl, rfl, fun _ h => absurd h List.not_mem_nil⟩

theorem exists_object_of_member {v u : Json} {name : Text} (h : v.member? name = some u) :
    ∃ ms, v = .object ms := by
  cases v with
  | object ms => exact ⟨ms, rfl⟩
  | _ => exact absurd h (by simp [Json.member?])

/-- A body that can be read as an object is answered by its members. -/
theorem answerBody_of_read {ms : List (Text × Json)} (h : Json.read body = .ok (.object ms))
    (parse : Bool) : answerBody parse body = answerObject parse (.object ms) := by
  have hne : body.isEmpty = false := by
    rcases body with - | ⟨c, r⟩
    · -- an empty body holds no value at all
      have hbad : Json.read [] = .error ⟨.valueExpected, 0⟩ := rfl
      rw [hbad] at h
      exact absurd h (by simp)
    · rfl
  unfold answerBody
  rw [hne, Json.after?_mark_of_read h]
  simp only [Bool.false_eq_true, if_false, Option.getD_none, h]

/-- The answer to a body that asks for the comments of a source. -/
theorem respond_parse (h : HasMembers body [("source", .string source), ("raw", .bool raw)]) :
    respond "POST".toList "/parse".toList body = .answer (comments raw source) := by
  obtain ⟨v, hread, hms⟩ := h
  have hsource : v.member? "source".toList = some (.string source) := hms _ List.mem_cons_self
  have hraw : v.member? "raw".toList = some (.bool raw) :=
    hms _ (List.mem_cons_of_mem _ List.mem_cons_self)
  obtain ⟨ms, rfl⟩ := exists_object_of_member hsource
  show answerBody true body = _
  rw [answerBody_of_read hread, answerObject, if_pos rfl, sourceOf, hsource, rawOf, hraw]
  rfl

/-- The answer to a body that asks for the reference for a source. -/
theorem respond_api (h : HasMembers body [("source", .string source)]) :
    respond "POST".toList "/api".toList body = .answer (referenceOf source) := by
  obtain ⟨v, hread, hms⟩ := h
  have hsource : v.member? "source".toList = some (.string source) := hms _ List.mem_cons_self
  obtain ⟨ms, rfl⟩ := exists_object_of_member hsource
  show answerBody false body = _
  rw [answerBody_of_read hread, answerObject, if_neg Bool.false_ne_true, sourceOf, hsource]

end Service

namespace CommandLine

open Service (HasMembers respond)

/-! ## Calls without paths -/

section

variable {reader : Yaml.Reader} {w : Workplace} {source output : Text}

/-- A call without paths succeeds when the settings can be read and what is in its input can be
written. -/
theorem call_of_input {arguments : List Text} {q : Request} {s : Settings}
    (hq : Request.ofArguments arguments = .ok q) (hp : q.paths = []) (hl : q.logFile = .absent)
    (hs : q.settings reader w = .ok s)
    (hout : writtenFor s [(standardInput, (Scan.ofSource (styleFor s) source).comments)] =
      .ok output) (time : Text) :
    (call reader w time arguments source).ending = .success ∧
      (call reader w time arguments source).output = output := by
  have hdelivery : ∃ d, q.delivery w = .ok (w, d) := by
    unfold Request.delivery
    rw [hl]
    exact ⟨_, rfl⟩
  have hsources : q.sources s w source = .ok ([], [(standardInput, source)]) := by
    unfold Request.sources
    rw [hp]
    rfl
  obtain ⟨d, hd⟩ := hdelivery
  rw [call_eq_outcome hq]
  apply Request.outcome_success_iff.mpr
  exact ⟨w, d, hd, Request.run_result_eq_ok_iff.mpr ⟨s, [], _, hs, hsources, hout⟩⟩

/-- The arguments that ask for plain descriptions, or else for nothing. -/
def rawArguments (raw : Bool) : List Text := if raw then ["--raw".toList] else []

theorem ofArguments_rawArguments (raw : Bool) :
    Request.ofArguments (rawArguments raw) = .ok { raw } := by
  cases raw <;> decide +kernel

theorem ofArguments_api : Request.ofArguments ["--api".toList] = .ok { api := true } := by
  decide +kernel

/-- Where no settings file says otherwise, what a call writes is read back as the comments that a
request is answered with. -/
theorem call_comments {es : List (Text × FileTree)} (hw : w.files.Leads w.here (.directory es))
    (ha : es.lookup Settings.fileName = none) (time : Text) (raw : Bool) (source : Text) :
    ∃ v, (call reader w time (rawArguments raw) source).ending = .success ∧
      Json.read (call reader w time (rawArguments raw) source).output = .ok v ∧
      Service.comments raw source = .object [("comments".toList, v)] := by
  have hs : ({ raw } : Request).settings reader w = .ok { raw } :=
    Request.settings_of_absent rfl hw ha
  -- one side chooses the style by its settings, the other by the flag in the body
  have hstyle : styleFor { raw } =
      if raw then .untouched else { renderer := Markdown.page {} } := by
    cases raw <;> rfl
  have hfits : fits 2 = true := by decide
  have hwritten := writtenFor_of_fits (s := { raw }) rfl hfits
    [(standardInput, (Scan.ofSource (styleFor { raw }) source).comments)]
  obtain ⟨hsuccess, houtput⟩ :=
    call_of_input (ofArguments_rawArguments raw) rfl rfl hs hwritten time
  refine ⟨commentsJson (Scan.ofSource (styleFor { raw }) source).comments, hsuccess, ?_, ?_⟩
  · rw [houtput]
    exact read_of_writtenFor hwritten rfl
  · rw [hstyle]
    rfl

/-- Whatever the settings are, a call for the reference writes that of the plain comments. -/
theorem call_reference {l : Settings.Loaded} (hl : Settings.load reader w (.ofParts w.here) = .ok l)
    (time source : Text) :
    (call reader w time ["--api".toList] source).ending = .success ∧
      (call reader w time ["--api".toList] source).output =
        reference (Scan.ofSource .untouched source).comments := by
  have hs := Request.settings_of_load (q := { api := true }) rfl hl
  refine call_of_input ofArguments_api rfl rfl hs ?_ time
  -- the option decides on the format, and the format on how descriptions are treated
  simp [Request.overlay, writtenFor, styleFor]

end

/-! ## Agreement -/

/-- In a directory without a settings file a call that reads a source and a request with the source
in its body agree: what the call writes is read back as the comments of the answer, with plain
descriptions when they are asked for in both, and a call for the reference writes that of the
answer.  This reference is the same in every directory whose settings can be read. -/
theorem call_agrees_respond {reader : Yaml.Reader} {w : Workplace}
    {es : List (Text × FileTree)}
    (hw : w.files.Leads w.here (.directory es)) (ha : es.lookup Settings.fileName = none)
    (time source : Text) :
    (∀ raw, ∃ v, (call reader w time (rawArguments raw) source).ending = .success ∧
      Json.read (call reader w time (rawArguments raw) source).output = .ok v ∧
      ∀ body, HasMembers body [("source", .string source), ("raw", .bool raw)] →
        respond "POST".toList "/parse".toList body = .answer (.object [("comments".toList, v)])) ∧
    (call reader w time ["--api".toList] source).ending = .success ∧
    (∀ body, HasMembers body [("source", .string source)] →
      respond "POST".toList "/api".toList body = .answer (.object
        [("markdown".toList, .string (call reader w time ["--api".toList] source).output)])) ∧
    ∀ (w' : Workplace) (time' : Text) (l : Settings.Loaded),
      Settings.load reader w' (.ofParts w'.here) = .ok l →
      (call reader w' time' ["--api".toList] source).ending = .success ∧
      (call reader w' time' ["--api".toList] source).output =
        (call reader w time ["--api".toList] source).output := by
  obtain ⟨hsuccess, houtput⟩ := call_reference (Settings.load_of_absent hw ha) time source
  refine ⟨?_, hsuccess, ?_, ?_⟩
  · -- the value is that of the call; the answer to any body with the same members holds it
    intro raw
    obtain ⟨v, hcall, hread, hcomments⟩ := call_comments hw ha time raw source
    refine ⟨v, hcall, hread, ?_⟩
    intro body hbody
    rw [Service.respond_parse hbody, hcomments]
  · intro body hbody
    rw [Service.respond_api hbody, houtput]
    rfl
  · intro w' time' l hl
    obtain ⟨hsuccess', houtput'⟩ := call_reference hl time' source
    exact ⟨hsuccess', houtput'.trans houtput.symm⟩

/-- A directory with nothing in it but a settings file with the given text, if any. -/
def lone (config : Option Text) : Workplace where
  files := .directory (config.toList.map fun t => (Settings.fileName, .file (Utf8.encode t)))
  here := []
  home := []

/-- Settings that bear on what is written, as pairs. -/
def plainPairs : List (Text × Text) :=
  [("raw", "yes"), ("indent", "0"), ("output", "json")].map fun p => (p.1.toList, p.2.toList)

/-- The text of a settings file with these pairs. -/
def plainText : Text := "raw: yes\nindent: 0\noutput: json\n".toList

theorem load_lone_plainText :
    Settings.load Yaml.read (lone (some plainText)) (.ofParts []) =
      .ok { root := .ofParts [], settings := { raw := true, indent := 0 } } := by
  have htokens : Yaml.tokens (unifyNewlines plainText) =
      .blockMapping :: (plainPairs.flatMap Yaml.pairTokens ++ [.blockEnd, .finish]) := by
    decide +kernel
  have hblank : ¬ Text.blank (unifyNewlines plainText) = true := by decide +kernel
  have htext : Settings.ofText Yaml.read Settings.fileName (unifyNewlines plainText) =
      .ok { raw := true, indent := 0 } := by
    unfold Settings.ofText
    rw [if_neg hblank, Yaml.read_of_tokens htokens]
    decide +kernel
  have hdecode : Utf8.decode (Utf8.encode plainText) = .ok plainText := by decide +kernel
  rw [Settings.load_of_present (w := lone (some plainText)) (.nil _) rfl hdecode, htext]
  rfl

/-- A source read where nothing is set and posted to the service; and the reference for it where
plain descriptions and a single line are set. -/
theorem call_agrees_respond_lone :
    ∃ (w w' : Workplace) (es : List (Text × FileTree)) (l : Settings.Loaded) (body : Text),
      w.files.Leads w.here (.directory es) ∧ es.lookup Settings.fileName = none ∧
      Settings.load Yaml.read w' (.ofParts w'.here) = .ok l ∧ l.settings.raw = true ∧
      l.settings.indent = 0 ∧
      HasMembers body [("source", .string firstText), ("raw", .bool false)] ∧
      (∃ v, Json.read (call Yaml.read w [] (rawArguments false) firstText).output = .ok v ∧
        respond "POST".toList "/parse".toList body = .answer (.object [("comments".toList, v)])) ∧
      (call Yaml.read w' [] ["--api".toList] firstText).output =
        (call Yaml.read w [] ["--api".toList] firstText).output := by
  obtain ⟨body, hbody⟩ := Service.exists_hasMembers firstText false
  obtain ⟨hcomments, -, -, hsame⟩ :=
    call_agrees_respond (w := lone none) (.nil _) rfl [] firstText
  obtain ⟨v, -, hread, hanswer⟩ := hcomments false
  obtain ⟨-, hreference⟩ := hsame (lone (some plainText)) [] _ load_lone_plainText
  exact ⟨lone none, lone (some plainText), [], _, body, .nil _, rfl, load_lone_plainText, rfl, rfl,
    hbody, ⟨v, hread, hanswer body hbody⟩, hreference⟩

end CommandLine

end Docblock
