/-
# Docblock.Proofs.Reference.ReadBack — a reference can be read back.

The lines of a reference are the table of contents, an empty line, and the section of each entry
under its heading.  A description is indented, so none of its lines can pass for a heading, and a
signature is a single line, so it cannot break one; therefore the sections are what stands between
the lines that look like headings, and each description is what its section says without the
indentation (`reference_readBack`).  Only the end needs care, because the blanks there are trimmed:
the last description may be gone, but nothing else.
-/
import Docblock.Proofs.Html.Escape
import Docblock.Proofs.Reference.Anchor
import Docblock.Proofs.Reference.Signature

namespace Docblock.Entry

open Text (lines unlines trim)

/-! ## Reading lines -/

/-- Whether a line looks like a heading. -/
def isHeading (l : Text) : Bool := Text.beginsWith "### ".toList l

/-- The headings among lines, each with the lines up to the next one. -/
def sectionsOf : List Text → List (Text × List Text)
  | [] => []
  | l :: ls =>
    if isHeading l then (l, ls.takeWhile (!isHeading ·)) :: sectionsOf ls else sectionsOf ls

/-- A line two spaces further out. -/
def outdented (l : Text) : Text := (Text.after? "  ".toList l).getD l

/-- What lines say when they stand two spaces further out. -/
def textOf (ls : List Text) : Text := trim (unlines (ls.map outdented))

/-- Empty lines around others say nothing. -/
theorem textOf_around {ls : List Text} (hne : ls ≠ []) :
    textOf ([] :: (ls ++ [[]])) = textOf ls := by
  have hne' : ls.map outdented ≠ [] := fun h => hne (List.map_eq_nil_iff.mp h)
  have hlines : unlines ([[]] ++ (ls.map outdented ++ [[]])) =
      '\n' :: (unlines (ls.map outdented) ++ ['\n']) := by
    rw [Text.unlines_append (List.cons_ne_nil _ _) (List.append_ne_nil_of_left_ne_nil hne' _),
      Text.unlines_append hne' (List.cons_ne_nil _ _), Text.unlines_singleton, List.nil_append]
  have hmap : ([] :: (ls ++ [[]])).map outdented = [[]] ++ (ls.map outdented ++ [[]]) := by
    rw [List.map_cons, List.map_append]
    rfl
  rw [textOf, hmap, hlines, Text.trim_cons_of_blank (by decide)]
  exact Text.trim_append_of_blank Text.blank_nil (by decide) _

/-- A heading and lines that do not look like one. -/
structure IsSection (sec : Text × List Text) : Prop where
  heading : isHeading sec.1 = true
  body : ∀ l ∈ sec.2, isHeading l = false

theorem sectionsOf_append {ls : List Text} (h : ∀ l ∈ ls, isHeading l = false) (ms : List Text) :
    sectionsOf (ls ++ ms) = sectionsOf ms := by
  induction ls with
  | nil => rfl
  | cons l ls ih =>
    rw [List.cons_append, sectionsOf, h l List.mem_cons_self, if_neg Bool.false_ne_true]
    exact ih fun m hm => h m (List.mem_cons_of_mem l hm)

/-- Lines up to a heading are the lines in front of the sections. -/
theorem takeWhile_append_sections {ls : List Text} (h : ∀ l ∈ ls, isHeading l = false)
    {secs : List (Text × List Text)} (hs : ∀ sec ∈ secs, IsSection sec) :
    (ls ++ secs.flatMap fun sec => sec.1 :: sec.2).takeWhile (!isHeading ·) = ls := by
  rw [List.takeWhile_append_of_pos fun l hl => by rw [h l hl]; rfl]
  cases secs with
  | nil => rw [List.flatMap_nil, List.takeWhile_nil, List.append_nil]
  | cons sec secs =>
    rw [List.flatMap_cons, List.cons_append, List.takeWhile_cons,
      (hs sec List.mem_cons_self).heading]
    exact List.append_nil ls

/-- Sections are read back from their lines. -/
theorem sectionsOf_flatMap {secs : List (Text × List Text)} (hs : ∀ sec ∈ secs, IsSection sec) :
    sectionsOf (secs.flatMap fun sec => sec.1 :: sec.2) = secs := by
  induction secs with
  | nil => rfl
  | cons sec secs ih =>
    have hrest : ∀ s ∈ secs, IsSection s := fun s h => hs s (List.mem_cons_of_mem sec h)
    have hsec := hs sec List.mem_cons_self
    rw [List.flatMap_cons, List.cons_append, sectionsOf, if_pos hsec.heading,
      takeWhile_append_sections hsec.body hrest, sectionsOf_append hsec.body, ih hrest]

theorem filter_isHeading_flatMap {secs : List (Text × List Text)}
    (hs : ∀ sec ∈ secs, IsSection sec) :
    (secs.flatMap fun sec => sec.1 :: sec.2).filter isHeading = secs.map Prod.fst := by
  induction secs with
  | nil => rfl
  | cons sec secs ih =>
    have hsec := hs sec List.mem_cons_self
    have hbody : sec.2.filter isHeading = [] := List.filter_eq_nil_iff.mpr fun l hl => by
      rw [hsec.body l hl]
      exact Bool.false_ne_true
    rw [List.flatMap_cons, List.filter_append, List.filter_cons_of_pos hsec.heading, hbody,
      ih fun s h => hs s (List.mem_cons_of_mem sec h)]
    rfl

/-! ## Indented lines -/

/-- A line that is empty or begins with two spaces. -/
def IsIndented (l : Text) : Prop := l = [] ∨ "  ".toList <+: l

theorem IsIndented.isHeading_eq_false {l : Text} (h : IsIndented l) : isHeading l = false := by
  rw [Bool.eq_false_iff]
  intro hl
  have hl : "### ".toList <+: l := Text.beginsWith_iff.mp hl
  rcases h with rfl | ⟨r, rfl⟩
  · exact absurd hl (by decide)
  · exact absurd (List.cons_prefix_cons.mp hl).1 (by decide)

/-- A line two spaces further in, unless it is empty. -/
def indented (l : Text) : Text := if l.isEmpty then l else ' ' :: ' ' :: l

theorem indented_of_ne_nil {l : Text} (h : l ≠ []) : indented l = ' ' :: ' ' :: l :=
  if_neg fun he => h (List.isEmpty_iff.mp he)

theorem isIndented_indented (l : Text) : IsIndented (indented l) := by
  cases l with
  | nil => exact .inl rfl
  | cons c l => exact .inr ⟨c :: l, rfl⟩

@[simp] theorem outdented_indented (l : Text) : outdented (indented l) = l := by
  cases l with
  | nil => rfl
  | cons c l => rfl

theorem newline_not_mem_indented {l : Text} (h : '\n' ∉ l) : '\n' ∉ indented l := by
  cases l with
  | nil => exact h
  | cons c l =>
    intro hn
    exact h (List.mem_of_ne_of_mem (by decide) (List.mem_of_ne_of_mem (by decide) hn))

theorem lines_indent (s : Text) : lines (indent s) = (lines s).map indented := by
  refine List.splitOn_intercalate '\n' (fun l hl => ?_) ?_
  · obtain ⟨m, hm, rfl⟩ := List.mem_map.mp hl
    exact newline_not_mem_indented (Text.not_mem_of_mem_lines hm)
  · rw [Ne, List.map_eq_nil_iff]
    exact Text.lines_ne_nil s

/-- An indented text says what the text says. -/
theorem textOf_lines_indent (s : Text) : textOf (lines (indent s)) = trim s := by
  rw [textOf, lines_indent, List.map_map]
  have hid : outdented ∘ indented = id := funext outdented_indented
  rw [hid, List.map_id, Text.unlines_lines]

theorem isIndented_of_mem_lines_indent {s l : Text} (h : l ∈ lines (indent s)) :
    IsIndented l := by
  rw [lines_indent] at h
  obtain ⟨m, -, rfl⟩ := List.mem_map.mp h
  exact isIndented_indented m

theorem indent_of_not_mem {s : Text} (h : '\n' ∉ s) : indent s = indented s := by
  show unlines ((lines s).map indented) = _
  rw [Text.lines_of_not_mem h, List.map_singleton, Text.unlines_singleton]

theorem indent_line_append {a : Text} (ha : '\n' ∉ a) (b : Text) :
    indent (a ++ '\n' :: b) = indented a ++ '\n' :: indent b := by
  show unlines ((lines (a ++ '\n' :: b)).map indented) = _
  rw [Text.lines_line_append ha, List.map_cons, ← List.singleton_append,
    Text.unlines_append (List.cons_ne_nil _ _), Text.unlines_singleton]
  · rfl
  · rw [Ne, List.map_eq_nil_iff]
    exact Text.lines_ne_nil b

theorem indent_nil : indent [] = [] := indent_of_not_mem List.not_mem_nil

/-- The last character stays the last one when a text is indented. -/
theorem exists_indent_concat (s : Text) {x : Char} (hx : x ≠ '\n') :
    ∃ t, indent (s ++ [x]) = t ++ [x] := by
  -- over the lines, since each of them is indented by itself
  induction s using Text.lines_induction with
  | last s hs =>
    have hn : '\n' ∉ s ++ [x] := fun h =>
      (List.mem_append.mp h).elim hs fun h => hx (List.mem_singleton.mp h).symm
    refine ⟨' ' :: ' ' :: s, ?_⟩
    rw [indent_of_not_mem hn, indented_of_ne_nil (List.append_ne_nil_of_right_ne_nil s (by simp))]
    rfl
  | more a b ha ih =>
    obtain ⟨t, ht⟩ := ih
    refine ⟨indented a ++ '\n' :: t, ?_⟩
    rw [List.append_assoc, List.cons_append, indent_line_append ha, ht, List.append_assoc,
      List.cons_append]

/-! ## The lines of a reference -/

/-- The line of the table of contents for a signature and its anchor. -/
def contentsOf (signature anchor : Text) : Text :=
  "  - [".toList ++ signature ++ "](#".toList ++ anchor ++ [')']

/-- The lines of the table of contents. -/
def contents (es : List Entry) : List Text := es.map fun e => contentsOf e.signature e.anchor

/-- The heading for a signature. -/
def headingOf (signature : Text) : Text := "### ".toList ++ signature

/-- An entry that cannot break a line: its signature is a title, its anchor stands on one line, and
its description is indented. -/
structure Legible (e : Entry) : Prop where
  signature : Text.IsTitle e.signature
  anchor : '\n' ∉ e.anchor
  description : ∃ s, e.description = indent (trim s)

/-- Under the heading of an entry nothing stands but what the entry says. -/
structure Shows (e : Entry) (sec : Text × List Text) : Prop where
  heading : sec.1 = headingOf e.signature
  body : ∀ l ∈ sec.2, IsIndented l
  text : textOf sec.2 = textOf (lines e.description)

theorem Shows.isSection {e : Entry} {sec : Text × List Text} (h : Shows e sec) :
    IsSection sec where
  heading := by
    rw [h.heading]
    exact Text.beginsWith_iff.mpr (List.prefix_append _ _)
  body l hl := (h.body l hl).isHeading_eq_false

variable {e : Entry} {es : List Entry}

theorem exists_shows_of_mem {secs : List (Text × List Text)} (h : List.Forall₂ Shows es secs)
    {sec : Text × List Text} (hs : sec ∈ secs) : ∃ e, Shows e sec := by
  induction h with
  | nil => exact absurd hs List.not_mem_nil
  | cons hshows _ ih =>
    rcases List.mem_cons.mp hs with rfl | hs
    · exact ⟨_, hshows⟩
    · exact ih hs

/-- What a section shows of its entry can be read off the sections in order. -/
theorem map_eq_of_shows {β : Type} {f : Text × List Text → β} {g : Entry → β}
    (hfg : ∀ e sec, Shows e sec → f sec = g e) {secs : List (Text × List Text)}
    (h : List.Forall₂ Shows es secs) : secs.map f = es.map g := by
  induction h with
  | nil => rfl
  | cons hshows _ ih => rw [List.map_cons, List.map_cons, hfg _ _ hshows, ih]

/-- The section of an entry with all of its lines. -/
def sectionOf (e : Entry) : Text × List Text :=
  (headingOf e.signature, [] :: (lines e.description ++ [[]]))

theorem shows_sectionOf (h : Legible e) : Shows e (sectionOf e) where
  heading := rfl
  body l hl := by
    obtain ⟨s, hs⟩ := h.description
    rcases List.mem_cons.mp hl with rfl | hl
    · exact .inl rfl
    · rcases List.mem_append.mp hl with hl | hl
      · rw [hs] at hl
        exact isIndented_of_mem_lines_indent hl
      · exact .inl (List.mem_singleton.mp hl)
  text := textOf_around (Text.lines_ne_nil e.description)

theorem Legible.newline_not_mem_headingOf (h : Legible e) : '\n' ∉ headingOf e.signature :=
  fun hn => (List.mem_append.mp hn).elim (by decide) h.signature.newline

theorem lines_sectionText (h : Legible e) (r : Text) :
    lines (sectionText e ++ r) = (sectionOf e).1 :: (sectionOf e).2 ++ lines r := by
  have htext : sectionText e ++ r =
      headingOf e.signature ++ '\n' :: ([] ++ '\n' :: (e.description ++ '\n' ::
        ([] ++ '\n' :: r))) := by
    unfold sectionText headingOf
    simp only [List.append_assoc, List.cons_append, List.nil_append]
  rw [htext, Text.lines_line_append h.newline_not_mem_headingOf,
    Text.lines_line_append List.not_mem_nil, Text.lines_append,
    Text.lines_line_append List.not_mem_nil]
  simp only [sectionOf, List.cons_append, List.append_assoc, List.nil_append]

theorem lines_flatMap_sectionText (h : ∀ e ∈ es, Legible e) (r : Text) :
    lines (es.flatMap sectionText ++ r) =
      (es.map sectionOf).flatMap (fun sec => sec.1 :: sec.2) ++ lines r := by
  induction es with
  | nil => rfl
  | cons e es ih =>
    rw [List.flatMap_cons, List.append_assoc, lines_sectionText (h e List.mem_cons_self),
      ih fun f hf => h f (List.mem_cons_of_mem e hf), List.map_cons, List.flatMap_cons,
      List.append_assoc]

theorem lines_flatMap_contentsLine (h : ∀ e ∈ es, Legible e) (r : Text) :
    lines (es.flatMap contentsLine ++ r) =
      contents es ++ lines r := by
  induction es with
  | nil => rfl
  | cons e es ih =>
    have he := h e List.mem_cons_self
    have hline : '\n' ∉ contentsOf e.signature e.anchor := by
      unfold contentsOf
      simp only [List.mem_append, not_or]
      exact ⟨⟨⟨⟨by decide, he.signature.newline⟩, by decide⟩, he.anchor⟩, by decide⟩
    have htext : contentsLine e = contentsOf e.signature e.anchor ++ ['\n'] := by
      unfold contentsLine contentsOf
      simp only [List.append_assoc, List.cons_append, List.nil_append]
    rw [List.flatMap_cons, htext, List.append_assoc, List.append_assoc, List.singleton_append,
      Text.lines_line_append hline, ih fun f hf => h f (List.mem_cons_of_mem e hf)]
    rfl

/-! ## The end of a reference -/

/-- At the end of a reference stands the section of the last entry up to its last character that is
not blank: the description, or the heading when there is none. -/
theorem exists_sectionText_eq (h : Legible e) :
    ∃ t x v, sectionText e = t ++ [x] ++ v ∧ isBlank x = false ∧ Text.blank v = true ∧
      ∃ sec, lines (t ++ [x] ++ ['\n']) = sec.1 :: sec.2 ∧ Shows e sec := by
  obtain ⟨s, hs⟩ := h.description
  by_cases hempty : trim s = []
  · -- the signature is the last that is said
    obtain ⟨t, x, ht, hx⟩ := h.signature.back
    have hnone : e.description = [] := by rw [hs, hempty, indent_nil]
    have htext : "### ".toList ++ t ++ [x] = headingOf e.signature := by
      rw [headingOf, ht, List.append_assoc]
    refine ⟨"### ".toList ++ t, x, ['\n', '\n', '\n', '\n'], ?_, hx, by decide,
      (headingOf e.signature, [[]]), ?_, rfl, ?_, ?_⟩
    · unfold sectionText
      rw [htext, hnone, headingOf]
      simp only [List.append_assoc, List.cons_append, List.nil_append]
    · rw [htext, Text.lines_line_append h.newline_not_mem_headingOf,
        Text.lines_of_not_mem List.not_mem_nil]
    · exact fun l hl => .inl (List.mem_singleton.mp hl)
    · rw [hnone, Text.lines_of_not_mem List.not_mem_nil]
  · -- a trimmed text ends with a character that indenting leaves at the end
    obtain ⟨t, x, ht, hx⟩ := (Text.tight_of_trim_eq (Text.trim_trim s) hempty).back
    obtain ⟨d, hd⟩ := exists_indent_concat t (x := x) (fun hn => absurd (hn ▸ hx) (by decide))
    have htext : headingOf e.signature ++ '\n' :: '\n' :: d ++ [x] =
        headingOf e.signature ++ '\n' :: ([] ++ '\n' :: e.description) := by
      rw [hs, ht, hd]
      simp only [List.append_assoc, List.cons_append, List.nil_append]
    refine ⟨headingOf e.signature ++ '\n' :: '\n' :: d, x, ['\n', '\n'], ?_, hx, by decide,
      sectionOf e, ?_, shows_sectionOf h⟩
    · unfold sectionText
      rw [htext, headingOf]
      simp only [List.append_assoc, List.cons_append, List.nil_append]
    · rw [htext, List.append_assoc, List.cons_append, List.append_assoc, List.cons_append,
        Text.lines_line_append h.newline_not_mem_headingOf, Text.lines_line_append List.not_mem_nil,
        Text.lines_append, Text.lines_of_not_mem List.not_mem_nil]
      rfl

/-- The lines of a reference: the table of contents, an empty line, and sections that show the
entries. -/
theorem lines_document (h : ∀ e ∈ es, Legible e) (hne : es ≠ []) :
    ∃ secs, lines (document es) = contents es ++
        [] :: secs.flatMap (fun sec => sec.1 :: sec.2) ∧
      List.Forall₂ Shows es secs := by
  -- all entries but the last one are written in full
  obtain ⟨es', e, rfl⟩ : ∃ es' e, es = es' ++ [e] :=
    ⟨es.dropLast, es.getLast hne, (List.dropLast_append_getLast hne).symm⟩
  have hinit : ∀ f ∈ es', Legible f := fun f hf => h f (List.mem_append_left _ hf)
  have hlast : Legible e := h e (List.mem_append_right _ List.mem_cons_self)
  obtain ⟨t, x, v, ht, hx, hv, sec, hsec, hshows⟩ := exists_sectionText_eq hlast
  have hdoc : document (es' ++ [e]) = (es' ++ [e]).flatMap contentsLine ++
      '\n' :: (es'.flatMap sectionText ++ (t ++ [x] ++ ['\n'])) := by
    have htext : (es' ++ [e]).flatMap contentsLine ++ '\n' :: (es' ++ [e]).flatMap sectionText =
        ((es' ++ [e]).flatMap contentsLine ++ '\n' :: (es'.flatMap sectionText ++ t) ++ [x]) ++
          v := by
      have hlast : (es' ++ [e]).flatMap sectionText = es'.flatMap sectionText ++ sectionText e := by
        rw [List.flatMap_append, List.flatMap_singleton]
      rw [hlast, ht]
      simp only [List.append_assoc, List.cons_append, List.nil_append]
    rw [document, if_neg (by simp), htext, Text.trimEnd_append_of_blank hv, Text.trimEnd_concat hx]
    simp only [List.append_assoc, List.cons_append, List.nil_append]
  refine ⟨es'.map sectionOf ++ [sec], ?_, ?_⟩
  · rw [hdoc, lines_flatMap_contentsLine h, ← List.nil_append ('\n' :: _),
      Text.lines_line_append List.not_mem_nil, lines_flatMap_sectionText hinit, hsec,
      List.flatMap_append, List.flatMap_singleton]
  · refine List.rel_append ?_ (.cons hshows .nil)
    exact List.forall₂_map_right_iff.mpr
      (List.forall₂_same.mpr fun f hf => shows_sectionOf (hinit f hf))

/-! ## Entries of a source -/

/-- A comment that is listed in a reference. -/
def IsListed (k : Comment) : Prop :=
  (∃ d ∈ k.declaration, ¬ "module.exports".toList <+: d.string) ∧
    k.isPrivate = false ∧ k.ignored = false ∧
    ¬ "Module dependencies".toList <:+: k.description.full

instance (k : Comment) : Decidable (IsListed k) := inferInstanceAs (Decidable (_ ∧ _ ∧ _ ∧ _))

theorem documented?_of_isListed {k : Comment} (h : IsListed k) :
    ∃ d, k.declaration = some d ∧ documented? k = some (k, d) := by
  obtain ⟨⟨d, hd, hexports⟩, hprivate, hignored, hdependencies⟩ := h
  have hd : k.declaration = some d := hd
  refine ⟨d, hd, ?_⟩
  simp only [documented?, hd, hprivate, hignored, Bool.false_or]
  rw [if_neg]
  rw [Bool.or_eq_true, Text.has_iff (by decide), Text.beginsWith_iff, not_or]
  exact ⟨hdependencies, hexports⟩

theorem documented?_of_not_isListed {k : Comment} (h : ¬ IsListed k) : documented? k = none := by
  unfold documented?
  split
  · rfl
  · next d hd =>
    rw [if_pos]
    by_contra hc
    simp only [Bool.or_eq_true, Text.has_iff (m := "Module dependencies".toList) (by decide),
      Text.beginsWith_iff, not_or, Bool.not_eq_true] at hc
    obtain ⟨⟨⟨hprivate, hignored⟩, hdependencies⟩, hexports⟩ := hc
    exact h ⟨⟨d, hd, hexports⟩, hprivate, hignored, hdependencies⟩

theorem map_fst_documented (cs : List Comment) :
    (cs.filterMap documented?).map Prod.fst = cs.filter fun k => IsListed k := by
  induction cs with
  | nil => rfl
  | cons k cs ih =>
    by_cases h : IsListed k
    · obtain ⟨d, -, hk⟩ := documented?_of_isListed h
      have hd : decide (IsListed k) = true := decide_eq_true h
      rw [List.filterMap_cons_some hk, List.map_cons, ih, List.filter_cons, if_pos hd]
    · have hd : ¬ decide (IsListed k) = true := fun hd => h (of_decide_eq_true hd)
      rw [List.filterMap_cons_none (documented?_of_not_isListed h), ih, List.filter_cons,
        if_neg hd]

theorem declaration_of_mem_documented {cs : List Comment} {p : Comment × Declaration}
    (h : p ∈ cs.filterMap documented?) : p.1 ∈ cs ∧ p.1.declaration = some p.2 := by
  obtain ⟨k, hk, hp⟩ := List.mem_filterMap.mp h
  by_cases hl : IsListed k
  · obtain ⟨d, hd, hk'⟩ := documented?_of_isListed hl
    rw [hk'] at hp
    cases hp
    exact ⟨hk, hd⟩
  · rw [documented?_of_not_isListed hl] at hp
    cases hp

theorem signatures_ofComments (cs : List Comment) :
    (ofComments cs).map (·.signature) = (signatures cs).map Html.escapeLoose := by
  have hl := length_assign_signatures cs
  have hz := length_zip_signatures cs
  calc (ofComments cs).map (·.signature)
      = ((((cs.filterMap documented?).zip ((signatures cs).zip
          (Anchor.assign (signatures cs)))).map Prod.snd).map Prod.fst).map Html.escapeLoose := by
        rw [ofComments, List.map_map, List.map_map, List.map_map]
        rfl
    _ = (((signatures cs).zip (Anchor.assign (signatures cs))).map Prod.fst).map
          Html.escapeLoose := by
        rw [List.map_snd_zip (by omega)]
    _ = (signatures cs).map Html.escapeLoose := by
        rw [List.map_fst_zip (by omega)]

theorem descriptions_ofComments (cs : List Comment) :
    (ofComments cs).map (·.description) =
      (cs.filterMap documented?).map fun p => indent (trim p.1.description.full) := by
  have hz := length_zip_signatures cs
  calc (ofComments cs).map (·.description)
      = (((cs.filterMap documented?).zip ((signatures cs).zip
          (Anchor.assign (signatures cs)))).map Prod.fst).map
          fun p => indent (trim p.1.description.full) := by
        rw [ofComments, List.map_map, List.map_map]
        rfl
    _ = (cs.filterMap documented?).map fun p => indent (trim p.1.description.full) := by
        rw [List.map_fst_zip (by omega)]

theorem length_ofComments (cs : List Comment) :
    (ofComments cs).length = (cs.filterMap documented?).length := by
  have := congrArg List.length (descriptions_ofComments cs)
  rwa [List.length_map, List.length_map] at this

theorem legible_of_mem_ofComments {s : Text} {cs : List Comment} (h : ∀ k ∈ cs, k.OfScan s)
    {e : Entry} (he : e ∈ ofComments cs) : Legible e where
  signature := by
    have hmem : e.signature ∈ (signatures cs).map Html.escapeLoose :=
      signatures_ofComments cs ▸ List.mem_map_of_mem he
    obtain ⟨sig, hsig, heq⟩ := List.mem_map.mp hmem
    obtain ⟨p, hp, rfl⟩ := List.mem_map.mp hsig
    obtain ⟨hk, hd⟩ := declaration_of_mem_documented hp
    exact heq ▸ Html.isTitle_escapeLoose (isTitle_signatureOf (h _ hk) hd)
  anchor := by
    have hmem : e.anchor ∈ Anchor.assign (signatures cs) :=
      anchors_ofComments cs ▸ List.mem_map_of_mem he
    exact Anchor.newline_not_mem_of_mem_assign hmem
  description := by
    have hmem : e.description ∈ (cs.filterMap documented?).map fun p =>
        indent (trim p.1.description.full) :=
      descriptions_ofComments cs ▸ List.mem_map_of_mem he
    obtain ⟨p, -, heq⟩ := List.mem_map.mp hmem
    exact ⟨_, heq.symm⟩

/-! ## Reading a reference back -/

theorem document_eq_nil_iff : document es = [] ↔ es = [] := by
  constructor
  · intro h
    by_contra hne
    rw [document, if_neg fun he => hne (List.isEmpty_iff.mp he)] at h
    exact List.append_ne_nil_of_right_ne_nil _ (List.cons_ne_nil _ _) h
  · rintro rfl
    rfl

theorem isHeading_contentsOf (signature anchor : Text) :
    isHeading (contentsOf signature anchor) = false := by
  rw [Bool.eq_false_iff]
  intro h
  obtain ⟨r, hr⟩ := Text.beginsWith_iff.mp h
  unfold contentsOf at hr
  exact absurd (List.cons.inj hr).1 (by decide)

/-- What is read back from the reference of legible entries. -/
theorem document_readBack (h : ∀ e ∈ es, Legible e) (hne : es ≠ []) :
    (lines (document es)).take es.length = contents es ∧
    (lines (document es))[es.length]? = some [] ∧
    (lines (document es)).filter isHeading = es.map (fun e => headingOf e.signature) ∧
    (sectionsOf (lines (document es))).map Prod.fst = es.map (fun e => headingOf e.signature) ∧
    (∀ sec ∈ sectionsOf (lines (document es)), ∀ l ∈ sec.2, IsIndented l) ∧
    (sectionsOf (lines (document es))).map (fun sec => textOf sec.2) =
      es.map (fun e => textOf (lines e.description)) := by
  obtain ⟨secs, hlines, hshows⟩ := lines_document h hne
  have hsection : ∀ sec ∈ secs, IsSection sec := by
    intro sec hsec
    obtain ⟨e, he⟩ := exists_shows_of_mem hshows hsec
    exact he.isSection
  have hfront : ∀ l ∈ contents es ++ [[]],
      isHeading l = false := by
    intro l hl
    rcases List.mem_append.mp hl with hl | hl
    · obtain ⟨e, -, rfl⟩ := List.mem_map.mp hl
      exact isHeading_contentsOf _ _
    · rw [List.mem_singleton.mp hl]
      decide
  have hlength : (contents es).length = es.length := List.length_map _
  have hheadings : secs.map Prod.fst = es.map (fun e => headingOf e.signature) :=
    map_eq_of_shows (fun _ _ h => h.heading) hshows
  have hlines' : lines (document es) =
      (contents es ++ [[]]) ++ secs.flatMap (fun sec => sec.1 :: sec.2) := by
    rw [hlines, List.append_assoc, List.singleton_append]
  have hsections : sectionsOf (lines (document es)) = secs := by
    rw [hlines', sectionsOf_append hfront, sectionsOf_flatMap hsection]
  rw [hsections]
  refine ⟨?_, ?_, ?_, hheadings, fun sec hsec => ?_, map_eq_of_shows (fun _ _ h => h.text) hshows⟩
  · rw [hlines, List.take_append_of_le_length (Nat.le_of_eq hlength.symm),
      List.take_of_length_le (Nat.le_of_eq hlength)]
  · rw [hlines, List.getElem?_append_right (Nat.le_of_eq hlength), hlength, Nat.sub_self]
    rfl
  · have hnone : (contents es ++ [[]]).filter isHeading = [] :=
      List.filter_eq_nil_iff.mpr fun l hl => by
        rw [hfront l hl]
        exact Bool.false_ne_true
    rw [hlines', List.filter_append, hnone, List.nil_append, filter_isHeading_flatMap hsection,
      hheadings]
  · obtain ⟨e, he⟩ := exists_shows_of_mem hshows hsec
    exact he.body

/-- **A reference can be read back.**  `E` are the comments of a source that are listed, with what
they declare.  The lines of the reference are a line of contents for each of them, with its
signature and its anchor, an empty line, and sections; there are as many headings as members of
`E`, and what stands under each heading, without the indentation, is the description. -/
theorem reference_readBack (source : Text) :
    ∃ E : List (Comment × Declaration),
      E.map Prod.fst = (Scan.ofSource Style.untouched source).comments.filter
        (fun k => IsListed k) ∧
      (∀ p ∈ E, p.1.declaration = some p.2) ∧
      (reference (Scan.ofSource Style.untouched source).comments = [] ↔ E = []) ∧
      (E ≠ [] →
        let signatures := E.map fun p => signatureOf p.1 p.2
        let ls := lines (reference (Scan.ofSource Style.untouched source).comments)
        ls.take E.length = List.zipWith contentsOf (signatures.map Html.escapeLoose)
          (Anchor.assign signatures) ∧
        ls[E.length]? = some [] ∧
        ls.filter isHeading = signatures.map (fun s => headingOf (Html.escapeLoose s)) ∧
        (sectionsOf ls).map Prod.fst = ls.filter isHeading ∧
        (∀ sec ∈ sectionsOf ls, ∀ l ∈ sec.2, IsIndented l) ∧
        (sectionsOf ls).map (fun sec => textOf sec.2) =
          E.map fun p => trim p.1.description.full) := by
  have hscan : ∀ k ∈ (Scan.ofSource Style.untouched source).comments,
      k.OfScan (unifyNewlines source) := fun k hk => Scan.ofScan_of_mem hk
  -- of the comments only this is needed from here on
  generalize (Scan.ofSource Style.untouched source).comments = cs at hscan ⊢
  have hlegible : ∀ e ∈ ofComments cs, Legible e := fun e he => legible_of_mem_ofComments hscan he
  have hlength := length_ofComments cs
  have hnil : ofComments cs = [] ↔ cs.filterMap documented? = [] := by
    rw [← List.length_eq_zero_iff, hlength, List.length_eq_zero_iff]
  refine ⟨cs.filterMap documented?, map_fst_documented cs,
    fun p hp => (declaration_of_mem_documented hp).2, document_eq_nil_iff.trans hnil,
    fun hne => ?_⟩
  obtain ⟨htake, hget, hfilter, hheadings, hbody, htexts⟩ :=
    document_readBack hlegible (fun h => hne (hnil.mp h))
  have hsignatures : (ofComments cs).map (fun e => headingOf e.signature) =
      (signatures cs).map (fun s => headingOf (Html.escapeLoose s)) := by
    have := congrArg (List.map headingOf) (signatures_ofComments cs)
    rwa [List.map_map, List.map_map] at this
  have hdescriptions : (ofComments cs).map (fun e => textOf (lines e.description)) =
      (cs.filterMap documented?).map fun p => trim p.1.description.full := by
    have := congrArg (List.map fun d => textOf (lines d)) (descriptions_ofComments cs)
    simpa only [List.map_map, Function.comp_def, textOf_lines_indent, Text.trim_trim] using this
  refine ⟨?_, hlength ▸ hget, hfilter.trans hsignatures, hheadings.trans hfilter.symm, hbody,
    htexts.trans hdescriptions⟩
  show _ = List.zipWith contentsOf ((signatures cs).map Html.escapeLoose)
    (Anchor.assign (signatures cs))
  rw [← signatures_ofComments, ← anchors_ofComments, List.zipWith_map, List.zipWith_self]
  exact hlength ▸ htake

/-- A description with a line like a heading and one like a line of contents. -/
theorem reference_readBack_forged :
    ∃ source : Text,
      (Scan.ofSource Style.untouched source).comments.filter (fun k => IsListed k) ≠ [] ∧
      (sectionsOf (lines (reference (Scan.ofSource Style.untouched source).comments))).map
        (fun sec => textOf sec.2) = ["A\n### g()\n- [g()](#g)".toList] := by
  obtain ⟨E, hE, -, -, h⟩ := reference_readBack
    "/** A\n * ### g()\n * - [g()](#g)\n */\nfunction f() \x7b\x7d".toList
  have hlisted : (Scan.ofSource Style.untouched
      "/** A\n * ### g()\n * - [g()](#g)\n */\nfunction f() \x7b\x7d".toList).comments.filter
      (fun k => IsListed k) ≠ [] := by
    decide +kernel
  refine ⟨_, hlisted, ?_⟩
  have hne : E ≠ [] := fun hnil => hlisted (hE.symm.trans (congrArg (List.map Prod.fst) hnil))
  have htexts : E.map (fun p => trim p.1.description.full) =
      (E.map Prod.fst).map fun k => trim k.description.full := by
    rw [List.map_map]
    rfl
  rw [(h hne).2.2.2.2.2, htexts, hE]
  decide +kernel

end Docblock.Entry
