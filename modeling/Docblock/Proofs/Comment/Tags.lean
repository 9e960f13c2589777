/-
# Docblock.Proofs.Comment.Tags — the tags of texts one behind the other.

The text of a comment is trimmed as a whole and then cut into its tags, and each tag trims what it
reads of its own text.  So the blanks that are taken off the end are not missed by the last tag,
not even by an example, whose text is kept as it is (`Tag.ofText_append_of_blank`).  Main statement:
behind any text, lines that begin with a tag add the tags that they have alone
(`tags_unlines_append`).
-/
import Docblock.Proofs.Comment.Groups
import Docblock.Proofs.Tag.Words

namespace Docblock

/-! ## Blanks at the end of a tag -/

namespace Tag

/-- A text without one line feed in front. -/
def afterLineEnd (s : Text) : Text := (Text.after? ['\n'] s).getD s

theorem afterLineEnd_cons_of_ne {x : Char} (h : x ≠ '\n') (s : Text) :
    afterLineEnd (x :: s) = x :: s := by
  have hnone : Text.after? ['\n'] (x :: s) = none := by
    rw [Text.after?_eq_none_iff, List.cons_prefix_cons]
    rintro ⟨hx, -⟩
    exact h hx.symm
  rw [afterLineEnd, hnone, Option.getD_none]

theorem afterLineEnd_suffix (s : Text) : afterLineEnd s <:+ s := by
  rw [afterLineEnd]
  cases h : Text.after? ['\n'] s with
  | none => exact List.suffix_rfl
  | some r =>
    rw [Text.after?_eq_some_iff.mp h]
    exact List.suffix_append ['\n'] r

theorem afterLineEnd_append {s : Text} (h : s ≠ []) (v : Text) :
    afterLineEnd (s ++ v) = afterLineEnd s ++ v := by
  obtain ⟨x, s, rfl⟩ := List.exists_cons_of_ne_nil h
  by_cases hx : x = '\n'
  · rw [hx]
    rfl
  · rw [List.cons_append, afterLineEnd_cons_of_ne hx, afterLineEnd_cons_of_ne hx, List.cons_append]

/-- Blanks may stand behind the keyword of an example, and the line feed behind them ends its
line. -/
theorem exampleText_keyword (r : Text) :
    exampleText ("@example".toList ++ r) = Text.trimEnd (afterLineEnd (r.dropWhile isIndent)) := by
  rw [exampleText, Text.after?_append]
  dsimp only
  split
  · next r' hr =>
    rw [hr]
    rfl
  · next hr =>
    cases hw : r.dropWhile isIndent with
    | nil => rfl
    | cons x w =>
      rw [afterLineEnd_cons_of_ne]
      rintro rfl
      exact hr w hw

variable {v : Text}

theorem exampleText_append_of_blank (hv : Text.blank v = true) (s : Text) :
    exampleText (s ++ v) = exampleText s := by
  by_cases hs : "@example".toList <+: s
  · obtain ⟨r, rfl⟩ := hs
    rw [List.append_assoc, exampleText_keyword, exampleText_keyword, List.dropWhile_append]
    by_cases hr : r.dropWhile isIndent = []
    · -- the rest of the text is blank
      have hrest : Text.blank (afterLineEnd (v.dropWhile isIndent)) = true := by
        apply Text.blank_of_subset hv
        exact ((afterLineEnd_suffix _).trans (List.dropWhile_suffix isIndent)).subset
      rw [hr, List.isEmpty_nil, if_pos rfl]
      exact Text.trimEnd_append_of_blank hrest []
    · rw [if_neg (by simpa using hr), afterLineEnd_append hr, Text.trimEnd_append_of_blank hv]
  · -- the keyword cannot reach into the blanks
    have hsv : ¬ "@example".toList <+: s ++ v := by
      intro hp
      have hp : "@exampl".toList ++ ['e'] <+: Text.trimEnd (s ++ v) :=
        Text.prefix_trimEnd hp (by decide)
      rw [Text.trimEnd_append_of_blank hv] at hp
      exact hs (hp.trans (Text.trimEnd_prefix s))
    rw [exampleText, exampleText, Text.after?_eq_none_iff.mpr hs, Text.after?_eq_none_iff.mpr hsv]
    exact Text.trimEnd_append_of_blank hv s

/-- A tag does not depend on blanks at its end. -/
theorem ofText_append_of_blank (hv : Text.blank v = true) (s : Text) :
    ofText (s ++ v) = ofText s := by
  have hw : Text.words (s ++ v) = Text.words s := Text.words_append_of_blank hv s
  by_cases h : (ofText s).type = "example".toList
  · have htype : (ofText (s ++ v)).type = "example".toList := by
      rw [← h, type_ofText, type_ofText, hw]
    have hkind : Kind.ofKeyword "example".toList = .example := by decide
    rw [ofText_of_type htype, ofText_of_type h, hkind, build, build, exampleText_append_of_blank hv]
  · exact ofText_congr h hw

theorem ofText_trimEnd (s : Text) : ofText (Text.trimEnd s) = ofText s := by
  obtain ⟨v, hs, hv⟩ := Text.exists_trimEnd_append s
  conv_rhs => rw [hs]
  exact (ofText_append_of_blank hv (Text.trimEnd s)).symm

end Tag

namespace Comment

/-! ## Sections of two texts -/

theorem sections_of_tag {s : Text} (h : ['@'] <+: s) (hs : ¬ ['\n', '@'] <:+: s) :
    sections s = ([], [s]) := by
  apply sections_of_eq_headed (by decide)
  · intro t ht
    rw [List.mem_singleton.mp ht]
    exact ⟨h, hs⟩
  · rw [if_pos (Text.beginsWith_iff.mpr h)]
    simp [headed]

theorem sections_of_no_tag {s : Text} (h : ¬ ['@'] <+: s) (hs : ¬ ['\n', '@'] <:+: s) :
    sections s = (s, []) := by
  apply sections_of_eq_headed hs
  · intro t ht
    exact absurd ht List.not_mem_nil
  · rw [if_neg (by rwa [Text.beginsWith_iff])]
    exact (List.append_nil s).symm

/-- Behind a line feed, a text that begins with a tag has its own sections. -/
theorem sections_append_tag (a b : Text) :
    (sections (a ++ '\n' :: '@' :: b)).2 = (sections a).2 ++ (sections ('@' :: b)).2 := by
  obtain ⟨front, gs, ha⟩ := exists_grouped (Text.lines a)
  obtain ⟨front', gs', hb⟩ := exists_grouped (Text.lines ('@' :: b))
  -- the first line of the second text begins a group
  obtain ⟨l, ls, hl, hat⟩ := Text.exists_lines_eq_cons (x := '@') (by decide) ('@' :: b)
  have hfront : front' = [] := by
    rw [hl] at hb
    exact ((grouped_cons_iff_of_at (hat.mpr ⟨b, rfl⟩)).mp hb).1
  subst hfront
  have hab : Grouped (Text.lines (a ++ '\n' :: '@' :: b)) front (gs ++ gs') := by
    refine ⟨?_, ha.front, ?_⟩
    · rw [Text.lines_append, ha.lines, hb.lines, List.flatten_append]
      simp
    · exact List.forall_mem_append.mpr ⟨ha.group, hb.group⟩
  rw [sections_of_grouped hab, sections_of_grouped ha, sections_of_grouped hb]
  exact List.map_append

/-- Blanks at the end of a text do not change what its tags say. -/
theorem map_ofText_sections_trimEnd (s : Text) :
    (sections (Text.trimEnd s)).2.map Tag.ofText = (sections s).2.map Tag.ofText := by
  by_cases hi : ['\n', '@'] <:+: s
  · obtain ⟨a, b, hs⟩ := hi
    have hs : s = (a ++ ['\n']) ++ '@' :: b := by simp [← hs]
    have ih := map_ofText_sections_trimEnd ('@' :: b)
    have hat : isBlank '@' = false := by decide
    have htag : Text.trimEnd ('@' :: b) = '@' :: Text.trimEnd b :=
      Text.trimEnd_append_cons hat [] b
    rw [htag] at ih
    rw [hs, Text.trimEnd_append_cons hat, List.append_assoc, List.append_assoc,
      List.singleton_append, List.singleton_append, sections_append_tag, sections_append_tag,
      List.map_append, List.map_append, ih]
  · have hi' : ¬ ['\n', '@'] <:+: Text.trimEnd s := by
      intro h
      exact hi (h.trans (Text.trimEnd_prefix s).isInfix)
    by_cases hat : ['@'] <+: s
    · have hat' : ['@'] <+: Text.trimEnd s := Text.prefix_trimEnd (a := []) hat (by decide)
      rw [sections_of_tag hat hi, sections_of_tag hat' hi', List.map_singleton, List.map_singleton,
        Tag.ofText_trimEnd]
    · have hat' : ¬ ['@'] <+: Text.trimEnd s := by
        intro h
        exact hat (h.trans (Text.trimEnd_prefix s))
      rw [sections_of_no_tag hat hi, sections_of_no_tag hat' hi', List.map_nil]
termination_by s.length
decreasing_by
  rw [hs]
  simp only [List.length_append, List.length_cons]
  omega

/-! ## Tags of two texts -/

variable (st : Style)

/-- The tags of a comment are not changed by blanks at its end, and blanks in front are only taken
off. -/
theorem tags_ofText (s : Text) :
    (ofText st s).tags = (sections (Text.trimStart s)).2.map Tag.ofText :=
  map_ofText_sections_trimEnd (Text.trimStart s)

theorem tags_unlines_nil : (ofText st (Text.unlines [])).tags = [] := rfl

theorem trimStart_of_tag {s : Text} (h : ['@'] <+: s) : Text.trimStart s = s := by
  obtain ⟨t, rfl⟩ := h
  apply Text.trimStart_of_front
  intro c hc
  rw [← Option.some.inj hc]
  decide

/-- Behind a line feed, a text that begins with a tag adds the tags that it has alone. -/
theorem tags_ofText_append (a b : Text) :
    (ofText st (a ++ '\n' :: '@' :: b)).tags =
      (ofText st a).tags ++ (ofText st ('@' :: b)).tags := by
  have htag : Text.trimStart ('@' :: b) = '@' :: b := trimStart_of_tag ⟨b, rfl⟩
  rw [tags_ofText, tags_ofText, tags_ofText, htag]
  by_cases ha : Text.blank a = true
  · -- nothing is left in front of the tag
    have hnone : Text.trimStart a = [] := List.dropWhile_eq_nil_iff.mpr (Text.blank_iff.mp ha)
    have hall : Text.trimStart ('\n' :: '@' :: b) = '@' :: b := htag
    rw [Text.trimStart_append_of_blank ha, hnone, hall]
    rfl
  · have hsome : ¬ (a.dropWhile isBlank).isEmpty = true := by
      rw [List.isEmpty_iff, List.dropWhile_eq_nil_iff, ← Text.blank_iff]
      exact ha
    rw [Text.trimStart, List.dropWhile_append, if_neg hsome, sections_append_tag, List.map_append]
    rfl

/-- Lines that begin with a tag add the tags that they have alone. -/
theorem tags_unlines_append (ls : List Text) {ms : List Text}
    (h : ∀ l ∈ ms.head?, ['@'] <+: l) :
    (ofText st (Text.unlines (ls ++ ms))).tags =
      (ofText st (Text.unlines ls)).tags ++ (ofText st (Text.unlines ms)).tags := by
  cases ms with
  | nil => rw [List.append_nil, tags_unlines_nil, List.append_nil]
  | cons m ms =>
    cases ls with
    | nil => rw [List.nil_append, tags_unlines_nil, List.nil_append]
    | cons l ls =>
      obtain ⟨t, ht⟩ := at_prefix_unlines (h m rfl) ms
      have ht : Text.unlines (m :: ms) = '@' :: t := ht.symm
      rw [Text.unlines_append (List.cons_ne_nil l ls) (List.cons_ne_nil m ms), ht,
        tags_ofText_append]

/-- Lines of which the first begins with a tag, and no other does, are one tag. -/
theorem tags_unlines_tag {l : Text} {t : List Text} (hline : ∀ m ∈ l :: t, '\n' ∉ m)
    (hl : ['@'] <+: l) (ht : ∀ m ∈ t, ¬ ['@'] <+: m) :
    (ofText st (Text.unlines (l :: t))).tags = [Tag.ofText (Text.unlines (l :: t))] := by
  have hat := at_prefix_unlines hl t
  rw [tags_ofText, trimStart_of_tag hat,
    sections_of_tag hat (not_newline_at_infix_unlines hline ht), List.map_singleton]

end Comment

end Docblock
