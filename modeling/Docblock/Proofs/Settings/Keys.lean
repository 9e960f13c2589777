/-
# Docblock.Proofs.Settings.Keys — every setting has a key of its own.

A settings file is written by hand, so a value that means nothing for its key is passed over, and
only an output format that is not known is refused.  Each setting is read off the value under its
own key and off nothing else (`Key.setting_eq`): what the other keys hold, be it mistyped or
unknown, cannot change it.  `Key.Takes` says which values mean something for a key.  Main statement:
which documents are refused, that all settings that are loaded are in order, and that each depends
on its key alone (`load_by_keys`).
-/
import Docblock.Proofs.Settings.Meaning
import Docblock.Proofs.Text.Cutting
import Docblock.Proofs.Yaml.Flat

namespace Docblock.Settings

/-! ## Keys -/

/-- The keys of the settings; the last three stand in a mapping of their own. -/
inductive Key where
  | raw
  | output
  | indent
  | extensions
  | excludePaths
  | html
  | typographer
  | breaks
  deriving DecidableEq, Repr

namespace Key

/-- The value under a key, null when there is none. -/
def valueIn (v : Yaml.Value) : Key → Yaml.Value
  | raw => under "raw" v
  | output => under "output" v
  | indent => under "indent" v
  | extensions => under "extensions" v
  | excludePaths => under "exclude_paths" v
  | html => under "html" (under "markdown" v).asMap
  | typographer => under "typographer" (under "markdown" v).asMap
  | breaks => under "breaks" (under "markdown" v).asMap

/-- What can be set under a key. -/
def Setting : Key → Type
  | raw | html | typographer | breaks => Bool
  | output => OutputFormat
  | indent => Int
  | extensions | excludePaths => List Text

/-- What is set under a key. -/
def setting (s : Settings) : (k : Key) → k.Setting
  | raw => s.raw
  | output => s.output
  | indent => s.indent
  | extensions => s.extensions
  | excludePaths => s.excludePaths
  | html => s.markdown.html
  | typographer => s.markdown.typographer
  | breaks => s.markdown.breaks

/-- A value means something for a key. -/
def Takes : Key → Yaml.Value → Prop
  | raw | html | typographer | breaks => SaysFlag
  | output => SaysName
  | indent => SaysIndent
  | extensions | excludePaths => SaysTexts

/-- Under no key does null mean anything. -/
theorem not_takes_null (k : Key) : ¬ k.Takes .null := by
  intro h
  cases k with
  | output =>
    obtain ⟨s, hs, -⟩ := h
    cases hs
  | _ => cases h

/-- What a value sets under a key, if it means something there. -/
def read? : (k : Key) → Yaml.Value → Option k.Setting
  | raw, v | html, v | typographer, v | breaks, v => v.asFlag?
  | output, v => formatIn? v
  | indent, v => indentOf? v
  | extensions, v => extensionsOf? v.asTexts
  | excludePaths, v => textsIn? v

end Key

/-! ## Reading a document -/

section

variable {v : Yaml.Value} {s : Settings}

/-- What says nothing has nothing under any key. -/
theorem under_of_saysNothing (h : v.saysNothing = true) (name : String) :
    under name v = .null := by
  cases v with
  | map ps =>
    cases ps with
    | nil => rfl
    | cons p ps => cases h
  | _ => rfl

theorem textsOf_eq_ok {texts : List Text} (h : textsOf v = .ok texts) : texts = v.asTexts := by
  unfold textsOf at h
  split at h
  · cases h
    rfl
  · cases h

/-- A mapping gives settings when its output format and its lists can be read, and then each setting
is read off the value under its key. -/
theorem ofMapping_eq_ok_iff :
    ofMapping v = .ok s ↔ ∃ output extensions excludePaths,
      formatOf (under "output" v) = .ok output ∧
      textsOf (under "extensions" v) = .ok extensions ∧
      textsOf (under "exclude_paths" v) = .ok excludePaths ∧
      s = {
        raw := (under "raw" v).asFlag?.getD false
        output := output.getD .json
        indent := (indentOf? (under "indent" v)).getD 2
        extensions := (extensionsOf? extensions).getD [".js".toList]
        excludePaths
        markdown := markdownOf (under "markdown" v) } := by
  unfold ofMapping
  cases formatOf (under "output" v) with
  | error m => simp [bind, Except.bind]
  | ok f =>
    cases textsOf (under "extensions" v) with
    | error m => simp [bind, Except.bind]
    | ok es =>
      cases textsOf (under "exclude_paths" v) with
      | error m => simp [bind, Except.bind]
      | ok xs => simp [bind, Except.bind, pure, Except.pure, eq_comm]

theorem exists_formatOf_of_ofValue (h : ofValue v = .ok s) :
    ∃ f, formatOf (under "output" v) = .ok f := by
  unfold ofValue at h
  split at h
  · next hnothing =>
    rw [under_of_saysNothing hnothing]
    exact ⟨none, rfl⟩
  · cases v with
    | map ps =>
      obtain ⟨f, _, _, hf, -⟩ := ofMapping_eq_ok_iff.mp h
      exact ⟨f, hf⟩
    | _ => cases h

/-- Every setting is read off the value under its own key, or is the usual one. -/
theorem Key.setting_eq (h : ofValue v = .ok s) (k : Key) :
    k.setting s = (k.read? (k.valueIn v)).getD (k.setting {}) := by
  unfold ofValue at h
  split at h
  · next hnothing =>
    cases h
    -- under no key there is a value then
    have hnull : k.valueIn v = .null := by
      cases k <;> simp only [valueIn, under_of_saysNothing hnothing] <;> rfl
    rw [hnull]
    cases k <;> rfl
  · cases v with
    | map ps =>
      obtain ⟨f, es, xs, hf, hes, hxs, rfl⟩ := ofMapping_eq_ok_iff.mp h
      cases k with
      | output =>
        rw [formatOf_eq_ok hf]
        rfl
      | extensions =>
        rw [textsOf_eq_ok hes]
        rfl
      | excludePaths =>
        rw [textsOf_eq_ok hxs]
        exact (getD_textsIn? _).symm
      | _ => rfl
    | _ => cases h

/-- In a document that is accepted, a key has a setting of its own exactly when the value under it
means something there. -/
theorem Key.isSome_read?_iff (h : ofValue v = .ok s) (k : Key) :
    (k.read? (k.valueIn v)).isSome = true ↔ k.Takes (k.valueIn v) := by
  cases k with
  | output =>
    obtain ⟨f, hf⟩ := exists_formatOf_of_ofValue h
    exact isSome_formatIn?_iff hf
  | indent => exact isSome_indentOf?_iff
  | extensions =>
    show (extensionsOf? (under "extensions" v).asTexts).isSome = true ↔ _
    rw [extensionsOf?_asTexts, Option.isSome_map]
    exact isSome_textsIn?_iff
  | excludePaths => exact isSome_textsIn?_iff
  | _ => exact isSome_asFlag?_iff

end

/-! ## Settings that are in order -/

/-- Settings that are in order; that the excluded paths are texts is said by their type. -/
structure Valid (s : Settings) : Prop where
  output : s.output = .json ∨ s.output = .api
  indent : 0 ≤ s.indent
  extensions : s.extensions ≠ []
  points : ∀ e ∈ s.extensions, ['.'] <+: e

theorem point_prefix_withPoint (e : Text) : ['.'] <+: withPoint e := by
  unfold withPoint
  split
  · next h => exact Text.beginsWith_iff.mp h
  · exact List.prefix_append ['.'] e

theorem valid_of_ofValue {v : Yaml.Value} {s : Settings} (h : ofValue v = .ok s) : s.Valid := by
  have hindent : s.indent = (indentOf? (under "indent" v)).getD 2 := Key.indent.setting_eq h
  have hextensions : s.extensions =
      (extensionsOf? (under "extensions" v).asTexts).getD [".js".toList] :=
    Key.extensions.setting_eq h
  rw [extensionsOf?_asTexts, textsIn?] at hextensions
  refine ⟨?_, ?_, ?_, ?_⟩
  · cases s.output
    · exact .inl rfl
    · exact .inr rfl
  · rw [hindent]
    cases hi : indentOf? (under "indent" v) with
    | none => decide
    | some i => exact of_decide_eq_true (Option.filter_eq_some_iff.mp hi).2
  · rw [hextensions]
    cases (under "extensions" v).asTexts <;> simp
  · rw [hextensions]
    intro e he
    split at he
    · rw [Option.map_none, Option.getD_none, List.mem_singleton] at he
      subst he
      decide
    · obtain ⟨name, -, rfl⟩ := List.mem_map.mp he
      exact point_prefix_withPoint name

/-! ## Documents that are refused -/

/-- A document says something that is no mapping, or is a mapping that names an output format that
is not known. -/
def Refused (v : Yaml.Value) : Prop :=
  (v.saysNothing = false ∧ ∀ ps, v ≠ .map ps) ∨
    ∃ ps, v = .map ps ∧ NamesUnknown (under "output" v)

theorem exists_textsOf {v : Yaml.Value} (h : ∀ i ∈ v.items, i.writable = true) :
    ∃ texts, textsOf v = .ok texts := by
  unfold textsOf
  rw [if_pos (List.all_eq_true.mpr h)]
  exact ⟨_, rfl⟩

theorem exists_ofMapping_iff {v : Yaml.Value} (hh : ¬ HoldsHuge v) :
    (∃ s, ofMapping v = .ok s) ↔ ¬ NamesUnknown (under "output" v) := by
  obtain ⟨hw, hlists⟩ := not_or.mp hh
  rw [← exists_formatOf_iff (by simpa using hw)]
  constructor
  · rintro ⟨s, hs⟩
    obtain ⟨f, _, _, hf, -⟩ := ofMapping_eq_ok_iff.mp hs
    exact ⟨f, hf⟩
  · rintro ⟨f, hf⟩
    -- behind an output format that can be read the lists hold no number that is too long
    have hsmall : ∀ name, (∀ i ∈ (under name v).items, ¬ i.writable = false) →
        ∃ texts, textsOf (under name v) = .ok texts := by
      intro name h
      exact exists_textsOf fun i hi => by simpa using h i hi
    have hlists := not_and.mp hlists ⟨f, hf⟩
    rw [not_or] at hlists
    obtain ⟨es, hes⟩ := hsmall "extensions" fun i hi hl => hlists.1 ⟨i, hi, hl⟩
    obtain ⟨xs, hxs⟩ := hsmall "exclude_paths" fun i hi hl => hlists.2 ⟨i, hi, hl⟩
    exact ⟨_, ofMapping_eq_ok_iff.mpr ⟨f, es, xs, hf, hes, hxs, rfl⟩⟩

/-- Exactly the documents that are refused give no settings. -/
theorem exists_ofValue_iff {v : Yaml.Value} (hh : ¬ HoldsHuge v) :
    (∃ s, ofValue v = .ok s) ↔ ¬ Refused v := by
  unfold ofValue
  split
  · next hnothing =>
    refine iff_of_true ⟨_, rfl⟩ ?_
    rintro (⟨hsome, -⟩ | ⟨ps, -, s, hs, -⟩)
    · rw [hnothing] at hsome
      cases hsome
    · rw [under_of_saysNothing hnothing] at hs
      cases hs
  · next hsome =>
    cases v with
    | map ps =>
      have hrefused : Refused (.map ps) ↔ NamesUnknown (under "output" (.map ps)) := by
        constructor
        · rintro (⟨-, hmap⟩ | ⟨-, -, h⟩)
          · exact absurd rfl (hmap ps)
          · exact h
        · exact fun h => .inr ⟨ps, rfl, h⟩
      rw [hrefused]
      exact exists_ofMapping_iff hh
    | _ =>
      refine iff_of_false (fun ⟨s, h⟩ => by cases h) fun h => h (.inl ⟨?_, ?_⟩)
      · exact Bool.eq_false_iff.mpr hsome
      · intro ps hps
        cases hps

/-! ## Loading -/

section

variable {reader : Yaml.Reader} {w : Workplace} {p : Path} {v : Yaml.Value}

/-- The settings file that a path means is there, and its text is a document that is read as the
value `v`. -/
def HoldsDocument (reader : Yaml.Reader) (w : Workplace) (p : Path) (v : Yaml.Value) : Prop :=
  ∃ file os s, fileOf w p = .ok file ∧ w.leadsOn file = true ∧ w.read file = .ok os ∧
    Utf8.decode os = .ok s ∧ Text.blank (unifyNewlines s) = false ∧
    reader (unifyNewlines s) = .ok v

/-- The settings that are loaded are those that the document says. -/
theorem exists_load_eq (h : HoldsDocument reader w p v) :
    ∃ root, load reader w p =
      (fun settings => { root, settings }) <$> (ofValue v).mapError Fault.misfit := by
  obtain ⟨file, os, s, hfile, hon, hread, hdecode, hblank, hdocument⟩ := h
  refine ⟨.ofParts file.parts.dropLast, ?_⟩
  rw [load_of_text hfile hon hread hdecode]
  unfold ofText
  rw [if_neg (by simp [hblank]), hdocument]

theorem load_eq_ok (h : HoldsDocument reader w p v) {l : Loaded} (hl : load reader w p = .ok l) :
    ofValue v = .ok l.settings := by
  obtain ⟨root, hload⟩ := exists_load_eq h
  rw [hload] at hl
  cases hv : ofValue v with
  | error m =>
    rw [hv] at hl
    cases hl
  | ok s =>
    rw [hv] at hl
    cases hl
    rfl

theorem exists_load_iff (h : HoldsDocument reader w p v) :
    (∃ l, load reader w p = .ok l) ↔ ∃ s, ofValue v = .ok s := by
  obtain ⟨root, hload⟩ := exists_load_eq h
  rw [hload]
  cases ofValue v with
  | error m => exact iff_of_false (fun ⟨l, hl⟩ => by cases hl) (fun ⟨s, hs⟩ => by cases hs)
  | ok s => exact iff_of_true ⟨_, rfl⟩ ⟨s, rfl⟩

/-- Without a number that is too long, all that a document is refused for is told. -/
theorem message?_of_load_eq_error (h : HoldsDocument reader w p v) (hh : ¬ HoldsHuge v) {f : Fault}
    (hf : load reader w p = .error f) : f.message?.isSome = true := by
  obtain ⟨root, hload⟩ := exists_load_eq h
  rw [hload] at hf
  cases hv : ofValue v with
  | ok s =>
    rw [hv] at hf
    cases hf
  | error m =>
    rw [hv] at hf
    cases hf
    apply isSome_message?_misfit_iff.mpr
    rintro rfl
    obtain ⟨ps, rfl, hhuge⟩ := ofValue_eq_hugeNumber_iff.mp hv
    exact hh hhuge

theorem exists_ofValue_of_ofText {name t : Text} {s : Settings} (h : ofText reader name t = .ok s) :
    ∃ v, ofValue v = .ok s := by
  unfold ofText at h
  split at h
  · cases h
    exact ⟨.null, rfl⟩
  · split at h
    · cases h
    · next v _ =>
      refine ⟨v, ?_⟩
      cases hv : ofValue v with
      | error m =>
        rw [hv] at h
        cases h
      | ok s =>
        rw [hv] at h
        cases h
        rfl

/-- Whatever is loaded, the settings are those of some value: where there is no file, of null. -/
theorem exists_ofValue_of_load {l : Loaded} (hl : load reader w p = .ok l) :
    ∃ v, ofValue v = .ok l.settings := by
  cases hfile : fileOf w p with
  | error f =>
    unfold load at hl
    rw [hfile] at hl
    cases hl
  | ok file =>
    cases hon : w.leadsOn file with
    | false =>
      cases (load_of_not_leadsOn hfile hon).symm.trans hl
      exact ⟨.null, rfl⟩
    | true =>
      cases hread : w.read file with
      | error a => cases (load_of_unreadable hfile hon hread).symm.trans hl
      | ok os =>
        cases hdecode : Utf8.decode os with
        | error f => cases (load_of_undecodable hfile hon hread hdecode).symm.trans hl
        | ok t =>
          have htext := (load_of_text hfile hon hread hdecode).symm.trans hl
          cases hs : ofText reader file.name (unifyNewlines t) with
          | error f =>
            rw [hs] at htext
            cases htext
          | ok s =>
            rw [hs] at htext
            cases htext
            exact exists_ofValue_of_ofText hs

/-- The text of a settings file in a directory gives the settings when it is a document. -/
theorem holdsDocument_of_present {names : List Text} {es : List (Text × FileTree)} {os : Octets}
    {s : Text} (h : w.files.Leads names (.directory es))
    (hf : es.lookup fileName = some (.file os)) (hs : Utf8.decode os = .ok s)
    (hb : Text.blank (unifyNewlines s) = false)
    (hd : reader (unifyNewlines s) = .ok v) :
    HoldsDocument reader w (.ofParts names) v := by
  obtain ⟨hleads, hon, hfile⟩ := leadsOn_of_present h hf fun _ => FileTree.noConfusion
  have hread : w.read (.ofParts (names ++ [fileName])) = .ok os :=
    Workplace.read_of_leads (p := .ofParts (names ++ [fileName])) hleads
  exact ⟨_, os, s, hfile, hon, hread, hs, hb, hd⟩

end

/-- **Every setting has a key of its own.**  A document without a number that is too long is
refused, with a message, exactly when it says something that is no mapping or names an output format
that is not known; otherwise its settings are loaded.  All settings that are loaded are in order.
Between two documents that are loaded, no setting differs whose key has the same value in both.  And
a value sets what it means for its key; where it means nothing, or is not there, the usual setting
holds. -/
theorem load_by_keys (reader : Yaml.Reader) :
    (∀ (w : Workplace) (p : Path) (v : Yaml.Value), HoldsDocument reader w p v → ¬ HoldsHuge v →
      ((∃ f, load reader w p = .error f ∧ f.message?.isSome = true) ↔ Refused v) ∧
      ((∃ l, load reader w p = .ok l) ↔ ¬ Refused v)) ∧
    (∀ (w : Workplace) (p : Path) (l : Loaded), load reader w p = .ok l → l.settings.Valid) ∧
    (∀ (w w' : Workplace) (p p' : Path) (v v' : Yaml.Value) (l l' : Loaded),
      HoldsDocument reader w p v → HoldsDocument reader w' p' v' → load reader w p = .ok l →
      load reader w' p' = .ok l' →
        ∀ k : Key, k.valueIn v = k.valueIn v' → k.setting l.settings = k.setting l'.settings) ∧
    ∀ (w : Workplace) (p : Path) (v : Yaml.Value) (l : Loaded),
      HoldsDocument reader w p v → load reader w p = .ok l → ∀ k : Key,
        (k.Takes (k.valueIn v) → k.read? (k.valueIn v) = some (k.setting l.settings)) ∧
        (k.valueIn v = .null ∨ ¬ k.Takes (k.valueIn v) →
          k.setting l.settings = k.setting {}) := by
  refine ⟨?_, ?_, ?_, ?_⟩
  · intro w p v h hh
    have hok : (∃ l, load reader w p = .ok l) ↔ ¬ Refused v :=
      (exists_load_iff h).trans (exists_ofValue_iff hh)
    refine ⟨?_, hok⟩
    -- what is not loaded is refused with a message
    rw [← not_iff_not, ← hok]
    cases hload : load reader w p with
    | error f =>
      refine iff_of_false (fun hnot => hnot ⟨f, rfl, ?_⟩) fun ⟨l, hl⟩ => by cases hl
      exact message?_of_load_eq_error h hh hload
    | ok l => exact iff_of_true (fun ⟨f, hf, _⟩ => by cases hf) ⟨l, rfl⟩
  · intro w p l hl
    obtain ⟨v, hv⟩ := exists_ofValue_of_load hl
    exact valid_of_ofValue hv
  · intro w w' p p' v v' l l' h h' hl hl' k hk
    rw [k.setting_eq (load_eq_ok h hl), k.setting_eq (load_eq_ok h' hl'), hk]
  · intro w p v l h hl k
    have hv := load_eq_ok h hl
    have hread := k.isSome_read?_iff hv
    rw [k.setting_eq hv]
    constructor
    · intro htakes
      obtain ⟨x, hx⟩ := Option.isSome_iff_exists.mp (hread.mpr htakes)
      rw [hx, Option.getD_some]
    · intro hnot
      have htakes : ¬ k.Takes (k.valueIn v) := by
        rcases hnot with hnull | hnot
        · rw [hnull]
          exact k.not_takes_null
        · exact hnot
      have hnone : k.read? (k.valueIn v) = none := by
        apply Option.not_isSome_iff_eq_none.mp
        rwa [hread]
      rw [hnone, Option.getD_none]

/-- The text of plain pairs, one on each line. -/
def pairsText (ps : List (Text × Text)) : Text :=
  ps.flatMap fun p => p.1 ++ ": ".toList ++ p.2 ++ ['\n']

/-- A workplace with nothing in it but a settings file of plain pairs. -/
def settled (ps : List (Text × Text)) : Workplace :=
  ⟨.directory [(fileName, .file (Utf8.encode (pairsText ps)))], [], []⟩

/-- A settings file of plain pairs that names a known format and lists nothing holds a document that
is not refused. -/
theorem holdsDocument_settled {ps : List (Text × Text)} {vs : List (Yaml.Value × Yaml.Value)}
    (name : Text) (hs : Utf8.decode (Utf8.encode (pairsText ps)) = .ok (pairsText ps))
    (hb : Text.blank (unifyNewlines (pairsText ps)) = false)
    (ht : Yaml.tokens (unifyNewlines (pairsText ps)) =
      .blockMapping :: (ps.flatMap Yaml.pairTokens ++ [.blockEnd, .finish]))
    (hvs : Yaml.PlainValues ps vs) (ho : under "output" (.map vs) = .string name)
    (hname : Text.lower name ∈ OutputFormat.names.map (·.1))
    (he : under "extensions" (.map vs) = .null) (hx : under "exclude_paths" (.map vs) = .null) :
    HoldsDocument Yaml.read (settled ps) (.ofParts []) (.map vs) ∧ ¬ HoldsHuge (.map vs) ∧
      ¬ Refused (.map vs) := by
  refine ⟨holdsDocument_of_present (.nil _) rfl hs hb (Yaml.read_plain ht hvs), ?_, ?_⟩
  · unfold HoldsHuge
    rw [ho, he, hx]
    rintro (h | ⟨-, ⟨i, hi, -⟩ | ⟨i, hi, -⟩⟩)
    · cases h
    · exact List.not_mem_nil hi
    · exact List.not_mem_nil hi
  · rintro (⟨-, hmap⟩ | ⟨-, -, s, hs, -, hunknown⟩)
    · exact hmap vs rfl
    · rw [ho] at hs
      cases hs
      exact hunknown hname

/-- Pairs with an indentation that is negative. -/
def negativePairs : List (Text × Text) :=
  [("raw", "yes"), ("indent", "-1"), ("output", "JSON")].map fun p => (p.1.toList, p.2.toList)

/-- What these pairs say. -/
def negativeValues : List (Yaml.Value × Yaml.Value) :=
  [(.string "raw".toList, .bool true), (.string "indent".toList, .int (-1)),
    (.string "output".toList, .string "JSON".toList)]

theorem plainValues_negative : Yaml.PlainValues negativePairs negativeValues := by
  refine .cons ?_ (Yaml.ofScalar_flag ?_ ?_) (.cons ?_ (Yaml.ofScalar_whole ?_ ?_)
    (.cons ?_ (Yaml.ofScalar_word ?_) .nil))
  all_goals decide +kernel

/-- Pairs with an indentation that is a word, and with a key that is not known. -/
def strangePairs : List (Text × Text) :=
  [("raw", "True"), ("indent", "wide"), ("output", "api"), ("colour", "red")].map
    fun p => (p.1.toList, p.2.toList)

/-- What these pairs say. -/
def strangeValues : List (Yaml.Value × Yaml.Value) :=
  [(.string "raw".toList, .bool true), (.string "indent".toList, .string "wide".toList),
    (.string "output".toList, .string "api".toList),
    (.string "colour".toList, .string "red".toList)]

theorem plainValues_strange : Yaml.PlainValues strangePairs strangeValues := by
  refine .cons ?_ (Yaml.ofScalar_flag ?_ ?_) (.cons ?_ (Yaml.ofScalar_word ?_)
    (.cons ?_ (Yaml.ofScalar_word ?_) (.cons ?_ (Yaml.ofScalar_word ?_) .nil)))
  all_goals decide +kernel

/-- Two settings files with the same flag, one with an indentation that means nothing and the other
with an output format of its own. -/
theorem load_by_keys_mistyped :
    ∃ l l' : Loaded,
      HoldsDocument Yaml.read (settled negativePairs) (.ofParts []) (.map negativeValues) ∧
      HoldsDocument Yaml.read (settled strangePairs) (.ofParts []) (.map strangeValues) ∧
      ¬ HoldsHuge (.map negativeValues) ∧ ¬ HoldsHuge (.map strangeValues) ∧
      load Yaml.read (settled negativePairs) (.ofParts []) = .ok l ∧
      load Yaml.read (settled strangePairs) (.ofParts []) = .ok l' ∧ l.settings.Valid ∧
      Key.raw.valueIn (.map negativeValues) = Key.raw.valueIn (.map strangeValues) ∧
      l.settings.raw = l'.settings.raw ∧
      ¬ Key.indent.Takes (Key.indent.valueIn (.map negativeValues)) ∧ l.settings.indent = 2 ∧
      Key.output.Takes (Key.output.valueIn (.map strangeValues)) ∧ l'.settings.output = .api := by
  obtain ⟨h, hh, haccepted⟩ := holdsDocument_settled "JSON".toList (by decide +kernel)
    (by decide +kernel) (by decide +kernel) plainValues_negative rfl (by decide +kernel) rfl rfl
  obtain ⟨h', hh', haccepted'⟩ := holdsDocument_settled "api".toList (by decide +kernel)
    (by decide +kernel) (by decide +kernel) plainValues_strange rfl (by decide +kernel) rfl rfl
  obtain ⟨hload, hvalid, hkeys, hsetting⟩ := load_by_keys Yaml.read
  obtain ⟨l, hl⟩ := (hload _ _ _ h hh).2.mpr haccepted
  obtain ⟨l', hl'⟩ := (hload _ _ _ h' hh').2.mpr haccepted'
  have hraw : Key.raw.valueIn (.map negativeValues) = .bool true := rfl
  have hraw' : Key.raw.valueIn (.map strangeValues) = .bool true := rfl
  have hsame := hraw.trans hraw'.symm
  have htakes : ¬ Key.indent.Takes (Key.indent.valueIn (.map negativeValues)) := by
    show ¬ SaysIndent (.int (-1))
    rintro ⟨hnegative⟩
    exact absurd hnegative (by decide)
  have htakes' : Key.output.Takes (Key.output.valueIn (.map strangeValues)) := by
    show SaysName (.string "api".toList)
    exact ⟨_, rfl, List.cons_ne_nil _ _⟩
  have hset : formatIn? (.string "api".toList) = some l'.settings.output :=
    (hsetting _ _ _ _ h' hl' .output).1 htakes'
  exact ⟨l, l', h, h', hh, hh', hl, hl', hvalid _ _ _ hl, hsame,
    hkeys _ _ _ _ _ _ _ _ h h' hl hl' .raw hsame, htakes,
    (hsetting _ _ _ _ h hl .indent).2 (.inr htakes), htakes', (Option.some.inj hset).symm⟩

end Docblock.Settings
