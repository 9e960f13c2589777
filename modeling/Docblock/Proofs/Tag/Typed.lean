/-
# Docblock.Proofs.Tag.Typed — tags with types are read as they are written.

The types of a tag stand in braces, with separators between them.  Their names may have several
words, and spaces may stand around a separator, so the text that is cut into words has to be put
together again before it is cut at the separators.  What is written has its printer here: type
names, separators and type expressions with `TypeExpression.text`, and a whole tag as the pieces of
`Typed.pieces`, which any blanks may divide.  Main statement: the tag that is read is the one that
was written (`ofText_typed`).
-/
import Docblock.Proofs.Tag.Words

namespace Docblock.Tag

open Text (words unwords)

/-! ## Type expressions -/

/-- A word in which no separator and no closing brace stands. -/
structure IsTypeWord (w : Text) : Prop extends Text.IsWord w where
  not_separator : ∀ c ∈ w, isTypeSeparator c = false
  not_closing : '\x7d' ∉ w

instance : DecidablePred IsTypeWord := fun w =>
  decidable_of_iff (Text.IsWord w ∧ w.all (!isTypeSeparator ·) = true ∧ '\x7d' ∉ w)
    ⟨fun h => ⟨h.1, by simpa using h.2.1, h.2.2⟩,
      fun h => ⟨h.toIsWord, by simpa using h.not_separator, h.not_closing⟩⟩

/-- The name of a type: words with single spaces between them. -/
structure TypeName where
  words : List Text
  ne_nil : words ≠ []
  isTypeWord : ∀ w ∈ words, IsTypeWord w

/-- What divides two type names: a separator with spaces around it. -/
structure TypeDivider where
  front : Nat
  mark : Char
  back : Nat
  isSeparator : isTypeSeparator mark = true

/-- Type names with dividers between them. -/
structure TypeExpression where
  first : TypeName
  others : List (TypeDivider × TypeName)

namespace TypeName

/-- The name as it is written. -/
def text (n : TypeName) : Text := unwords n.words

variable (n : TypeName)

theorem isWord : ∀ w ∈ n.words, Text.IsWord w := fun w hw => (n.isTypeWord w hw).toIsWord

theorem words_text : Text.words n.text = n.words := Text.words_unwords n.isWord

theorem text_ne_nil : n.text ≠ [] := by
  intro h
  have hwords := n.words_text
  rw [h, Text.words_nil] at hwords
  exact n.ne_nil hwords.symm

theorem mem_of_mem_text {c : Char} (h : c ∈ n.text) : c = ' ' ∨ ∃ w ∈ n.words, c ∈ w := by
  rcases Text.of_mem_join h with h | h
  · exact .inl (List.mem_singleton.mp h)
  · exact .inr h

theorem not_separator : ∀ c ∈ n.text, isTypeSeparator c = false := by
  intro c hc
  rcases n.mem_of_mem_text hc with rfl | ⟨w, hw, hc⟩
  · decide
  · exact (n.isTypeWord w hw).not_separator c hc

theorem not_closing : '\x7d' ∉ n.text := by
  intro h
  rcases n.mem_of_mem_text h with h | ⟨w, hw, h⟩
  · exact absurd h (by decide)
  · exact (n.isTypeWord w hw).not_closing h

end TypeName

/-- The divider as it is written. -/
def TypeDivider.text (d : TypeDivider) : Text :=
  Text.fill d.front ' ' ++ d.mark :: Text.fill d.back ' '

theorem blank_fill (n : Nat) : Text.blank (Text.fill n ' ') = true := by
  rw [Text.blank_iff]
  intro x hx
  rw [List.eq_of_mem_replicate hx]
  decide

theorem isBlank_of_isTypeSeparator (c : Char) (h : isTypeSeparator c = true) :
    isBlank c = false := by
  simp only [isTypeSeparator, Bool.or_eq_true, beq_iff_eq] at h
  rcases h with (rfl | rfl) | rfl <;> decide

namespace TypeExpression

/-- What stands between the braces. -/
def inside (e : TypeExpression) : Text :=
  e.first.text ++ e.others.flatMap fun p => p.1.text ++ p.2.text

/-- The expression as it is written, braces and all. -/
def text (e : TypeExpression) : Text := '\x7b' :: (e.inside ++ ['\x7d'])

/-- The names alone, in order. -/
def names (e : TypeExpression) : List Text := e.first.text :: e.others.map fun p => p.2.text

/-- Cut at the separators, the inside of a type expression falls into its names, apart from blanks
around them. -/
theorem map_splitOnP_inside (e : TypeExpression) {g : Text} (hg : Text.blank g = true) :
    ((g ++ e.inside).splitOnP isTypeSeparator).map (fun t => unwords (words t)) = e.names := by
  obtain ⟨n, others⟩ := e
  -- over the other names; behind a divider the spaces stand in front of the next name
  induction others generalizing n g with
  | nil =>
    have hfree : ∀ c ∈ g ++ n.text, isTypeSeparator c = false :=
      List.forall_mem_append.mpr
        ⟨Text.not_of_mem_blank isBlank_of_isTypeSeparator hg, n.not_separator⟩
    simp only [inside, names, List.flatMap_nil, List.append_nil, List.map_nil]
    rw [List.splitOnP_eq_singleton hfree, List.map_singleton, Text.words_blank_append hg,
      n.words_text]
    rfl
  | cons p others ih =>
    obtain ⟨d, m⟩ := p
    have hfree : ∀ c ∈ g ++ (n.text ++ Text.fill d.front ' '), isTypeSeparator c = false := by
      rw [List.forall_mem_append, List.forall_mem_append]
      exact ⟨Text.not_of_mem_blank isBlank_of_isTypeSeparator hg, n.not_separator,
        Text.not_of_mem_blank isBlank_of_isTypeSeparator (blank_fill d.front)⟩
    have hs : g ++ inside ⟨n, (d, m) :: others⟩ =
        (g ++ (n.text ++ Text.fill d.front ' ')) ++
          d.mark :: (Text.fill d.back ' ' ++ inside ⟨m, others⟩) := by
      simp [inside, TypeDivider.text]
    rw [hs, List.splitOnP_append_cons_of_forall_mem hfree _ d.isSeparator, List.map_cons,
      ih (blank_fill d.back) m, Text.words_blank_append hg,
      Text.words_append_of_blank (blank_fill d.front), n.words_text]
    rfl

theorem not_closing_inside (e : TypeExpression) : '\x7d' ∉ e.inside := by
  intro h
  rcases List.mem_append.mp h with h | h
  · exact e.first.not_closing h
  · obtain ⟨⟨d, n⟩, -, h⟩ := List.mem_flatMap.mp h
    rcases List.mem_append.mp h with h | h
    · -- in a divider there are spaces and a separator
      have hmark : '\x7d' ≠ d.mark := by
        intro hm
        exact absurd (hm ▸ d.isSeparator) (by decide)
      rcases List.mem_append.mp h with h | h
      · exact absurd (List.eq_of_mem_replicate h) (by decide)
      · exact absurd (List.eq_of_mem_replicate (List.mem_of_ne_of_mem hmark h)) (by decide)
    · exact n.not_closing h

/-- The words of a type expression go up to the one that ends with its closing brace. -/
theorem typeWords_append (e : TypeExpression) (ws : List Text) :
    typeWords (words e.text ++ ws) = (words e.text, ws) := by
  obtain ⟨u, us, hfront⟩ :=
    Text.exists_words_eq_cons (c := '\x7b') (by decide) (e.inside ++ ['\x7d'])
  obtain ⟨vs, v, hback, hmem⟩ :=
    Text.exists_words_concat (c := '\x7d') (by decide) ('\x7b' :: e.inside)
  have hopen : ∀ v ∈ vs, Text.endsWith ['\x7d'] v = false := by
    intro v hv
    rw [Bool.eq_false_iff]
    intro hend
    have hc : '\x7d' ∈ v := (List.isSuffixOf_iff_suffix.mp hend).subset List.mem_cons_self
    have hin := (Text.of_mem_splitOnP (List.mem_filter.mp (hmem v hv)).1 hc).1
    exact e.not_closing_inside (List.mem_of_ne_of_mem (by decide) hin)
  have hclose : Text.endsWith ['\x7d'] (v ++ ['\x7d']) = true :=
    List.isSuffixOf_iff_suffix.mpr (List.suffix_append v ['\x7d'])
  have hwords : words e.text = vs ++ [v ++ ['\x7d']] := hback
  have hbrace : typeWords (words e.text ++ ws) = throughBrace (words e.text ++ ws) := by
    have hwords : words e.text = ('\x7b' :: u) :: us := hfront
    rw [hwords]
    rfl
  rw [hbrace, hwords, List.append_assoc, List.singleton_append,
    throughBrace_append_cons hopen hclose]

theorem unbrace_braced (m : Text) : unbrace ('\x7b' :: (m ++ ['\x7d'])) = m := by
  have hopen : Text.after? ['\x7b'] ('\x7b' :: (m ++ ['\x7d'])) = some (m ++ ['\x7d']) :=
    Text.after?_append ['\x7b'] _
  have hclose : Text.before? ['\x7d'] (m ++ ['\x7d']) = some m :=
    Text.before?_eq_some_iff.mpr rfl
  show (Text.before? ['\x7d'] ((Text.after? ['\x7b'] _).getD _)).getD _ = m
  rw [hopen, Option.getD_some, hclose, Option.getD_some]

/-- The names are read back from the words of a type expression. -/
theorem typeNames_unwords_words (e : TypeExpression) :
    typeNames (unwords (words e.text)) = e.names := by
  obtain ⟨g, hg, hopen⟩ :=
    Text.exists_unwords_words_cons (c := '\x7b') (by decide) (e.inside ++ ['\x7d'])
  obtain ⟨g', hg', hclose⟩ :=
    Text.exists_unwords_words_append_cons (c := '\x7d') (by decide) e.inside []
  have hlast : unwords (words ['\x7d']) = ['\x7d'] := by decide
  have htext : unwords (words e.text) =
      '\x7b' :: ((g ++ (unwords (words e.inside) ++ g')) ++ ['\x7d']) := by
    rw [hlast] at hclose
    rw [text, hopen, hclose]
    simp
  have htrim : Text.trim (unwords (words e.text)) = unwords (words e.text) :=
    Text.trim_unwords fun w hw => Text.isWord_of_mem_words hw
  have hinside := e.map_splitOnP_inside Text.blank_nil
  rw [List.nil_append] at hinside
  have hnames : ∀ n ∈ e.names, (!n.isEmpty) = true := by
    intro n hn
    have hne : n ≠ [] := by
      rcases List.mem_cons.mp hn with rfl | hn
      · exact e.first.text_ne_nil
      · obtain ⟨p, -, rfl⟩ := List.mem_map.mp hn
        exact p.2.text_ne_nil
    simpa using hne
  rw [typeNames, htrim, htext, unbrace_braced,
    Text.map_trim_splitOnP_around isBlank_of_isTypeSeparator hg hg',
    Text.map_trim_splitOnP_unwords_words isBlank_of_isTypeSeparator, hinside,
    List.filter_eq_self.mpr hnames]

/-- The names are read back, whatever words follow the type expression. -/
theorem takeTypes_append (e : TypeExpression) (ws : List Text) :
    takeTypes (words e.text ++ ws) = (e.names, ws) := by
  rw [takeTypes, e.typeWords_append, e.typeNames_unwords_words]

end TypeExpression

/-! ## Tags -/

/-- A tag with types, as it is written. -/
inductive Typed where
  | param (types : TypeExpression) (name : Text) (dash : Bool) (description : List Text)
  | return (types : TypeExpression) (description : List Text)
  | throws (types : TypeExpression) (description : List Text)
  | type (types : TypeExpression)

namespace Typed

/-- The pieces of the tag, between which blanks stand. -/
def pieces : Typed → List Text
  | .param e n dash ds =>
    ('@' :: "param".toList) :: e.text :: n :: ((if dash then [['-']] else []) ++ ds)
  | .return e ds => ('@' :: "return".toList) :: e.text :: ds
  | .throws e ds => ('@' :: "throws".toList) :: e.text :: ds
  | .type e => ['@' :: "type".toList, e.text]

/-- The tag that is meant. -/
def tag : Typed → Tag
  | .param e n _ ds =>
    { type := "param".toList, types := some e.names, name := some n,
      description := some (unwords ds) }
  | .return e ds =>
    { type := "return".toList, types := some e.names, description := some (unwords ds) }
  | .throws e ds =>
    { type := "throws".toList, types := some e.names, description := some (unwords ds) }
  | .type e => { type := "type".toList, types := some e.names }

/-- Names and descriptions are made of words; and the description of a parameter does not begin with
a lone dash, unless there is one in front of it. -/
def Legible : Typed → Prop
  | .param _ n dash ds =>
    Text.IsWord n ∧ (∀ d ∈ ds, Text.IsWord d) ∧ (dash = false → ds.head? ≠ some ['-'])
  | .return _ ds | .throws _ ds => ∀ d ∈ ds, Text.IsWord d
  | .type _ => True

end Typed

section

variable {keyword s : Text} {e : TypeExpression} {ws : List Text}

/-- The words of the type expression stand behind the keyword, and then all other words. -/
theorem ofText_of_spaced (hk : Text.IsWord ('@' :: keyword)) (hws : ∀ w ∈ ws, Text.IsWord w)
    (hs : Text.Spaced (('@' :: keyword) :: e.text :: ws) s) :
    ofText s = build (Kind.ofKeyword keyword) keyword (words e.text ++ ws) s := by
  have hwords : words s = ('@' :: keyword) :: (words e.text ++ ws) := by
    rw [hs.words_eq, List.flatMap_cons, List.flatMap_cons, hk.words_eq, Text.flatMap_words hws,
      List.singleton_append]
  exact ofText_of_words hwords

theorem build_param_append :
    build .param keyword (words e.text ++ ws) s =
      { type := keyword, types := some e.names, name := some (firstWord ws),
        description := some (unwords (dropDash ws.tail)) } := by
  simp only [build, e.takeTypes_append]

theorem build_described_append {k : Kind} (hk : k = .return ∨ k = .throws) :
    build k keyword (words e.text ++ ws) s =
      { type := keyword, types := some e.names, description := some (unwords ws) } := by
  rcases hk with rfl | rfl <;> simp only [build, e.takeTypes_append]

theorem build_type_append :
    build .type keyword (words e.text ++ ws) s = { type := keyword, types := some e.names } := by
  simp only [build, e.takeTypes_append]

end

/-- A dash in front of the description is dropped, and nothing else is. -/
theorem dropDash_append {dash : Bool} {ds : List Text}
    (h : dash = false → ds.head? ≠ some ['-']) :
    dropDash ((if dash then [['-']] else []) ++ ds) = ds := by
  cases dash with
  | true => rfl
  | false =>
    cases ds with
    | nil => rfl
    | cons d ds =>
      have hd : d ≠ ['-'] := by simpa using h rfl
      exact if_neg hd

/-- A tag with types is read as it is written, whatever blanks stand between its pieces. -/
theorem ofText_typed {t : Typed} (h : t.Legible) {s : Text} (hs : Text.Spaced t.pieces s) :
    ofText s = t.tag := by
  cases t with
  | param e n dash ds =>
    obtain ⟨hn, hds, hdash⟩ := h
    have hmark : ∀ w ∈ (if dash then [['-']] else [] : List Text), Text.IsWord w := by
      cases dash <;> decide
    have hws : ∀ w ∈ n :: ((if dash then [['-']] else []) ++ ds), Text.IsWord w := by
      rw [List.forall_mem_cons, List.forall_mem_append]
      exact ⟨hn, hmark, hds⟩
    have hkind : Kind.ofKeyword "param".toList = .param := by decide
    rw [ofText_of_spaced (by decide) hws hs, hkind, build_param_append, List.tail_cons,
      dropDash_append hdash]
    rfl
  | «return» e ds =>
    have hkind : Kind.ofKeyword "return".toList = .return := by decide
    rw [ofText_of_spaced (by decide) h hs, hkind, build_described_append (.inl rfl)]
    rfl
  | throws e ds =>
    have hkind : Kind.ofKeyword "throws".toList = .throws := by decide
    rw [ofText_of_spaced (by decide) h hs, hkind, build_described_append (.inr rfl)]
    rfl
  | type e =>
    have hkind : Kind.ofKeyword "type".toList = .type := by decide
    have hnone : ∀ w ∈ ([] : List Text), Text.IsWord w := by simp
    rw [ofText_of_spaced (by decide) hnone hs, hkind, build_type_append]
    rfl

/-- Types of several words, a line break in front of the name, and a dash behind it. -/
theorem ofText_typed_wrapped :
    ofText "@param \x7bPlain object |Text,Number\x7d\n  options -\tThe  options.".toList =
      { type := "param".toList
        types := some ["Plain object".toList, "Text".toList, "Number".toList]
        name := some "options".toList
        description := some "The options.".toList } := by
  let e : TypeExpression :=
    { first := ⟨["Plain".toList, "object".toList], by decide, by decide⟩
      others :=
        [(⟨1, '|', 0, by decide⟩, ⟨["Text".toList], by decide, by decide⟩),
          (⟨0, ',', 0, by decide⟩, ⟨["Number".toList], by decide, by decide⟩)] }
  let t : Typed := .param e "options".toList true ["The".toList, "options.".toList]
  have h : t.Legible := by
    refine ⟨by decide, by decide, ?_⟩
    intro h
    exact absurd h (by decide)
  have hs : Text.Spaced t.pieces
      ("@param".toList ++ (" ".toList ++ (e.text ++ ("\n  ".toList ++ ("options".toList ++
        (" ".toList ++ ("-".toList ++ ("\t".toList ++ ("The".toList ++ ("  ".toList ++
          "options.".toList)))))))))) := by
    apply Text.Spaced.cons (by decide) (by decide)
    apply Text.Spaced.cons (by decide) (by decide)
    apply Text.Spaced.cons (by decide) (by decide)
    apply Text.Spaced.cons (by decide) (by decide)
    apply Text.Spaced.cons (by decide) (by decide)
    exact Text.Spaced.single _
  exact ofText_typed h hs

end Docblock.Tag
