/-
# Docblock.Proofs.Comment.Gutter — the gutter, line by line.

The reader of a gutter runs through a text once, but a line feed brings it back to where it began.
So the gutter of a text is taken off line by line (`withoutGutter_append`), and behind the star and
the one space that open a line everything is text.  `Bares` says without a reader what becomes of a
single line.  Main statement: the lines of a text become just this, each in its place
(`withoutGutter_linewise`).
-/
import Docblock.Comment
import Docblock.Proofs.Text.Lines
import Mathlib.Data.List.Forall2

namespace Docblock.Comment

/-! ## Line ends -/

/-- Behind a line feed the reader is at the front of a line, whatever it has read before. -/
theorem withoutGutterFrom_append (g : GutterState) (a b : Text) :
    withoutGutterFrom g (a ++ '\n' :: b) = withoutGutterFrom g a ++ '\n' :: withoutGutter b := by
  induction a generalizing g with
  | nil => cases g <;> simp [withoutGutterFrom, isIndent, GutterState.behind, withoutGutter]
  | cons c a ih =>
    cases g with
    | front held =>
      simp only [List.cons_append, withoutGutterFrom, ih]
      split
      · rfl
      · split
        · rfl
        · rw [List.append_assoc, List.cons_append]
    | star =>
      simp only [List.cons_append, withoutGutterFrom, ih]
      split <;> rfl
    | inside => simp only [List.cons_append, withoutGutterFrom, ih]

/-- The gutter is taken off line by line. -/
theorem withoutGutter_append (a b : Text) :
    withoutGutter (a ++ '\n' :: b) = withoutGutter a ++ '\n' :: withoutGutter b :=
  withoutGutterFrom_append (.front []) a b

/-! ## Lines behind a gutter -/

theorem withoutGutterFrom_inside {l : Text} (h : '\n' ∉ l) :
    withoutGutterFrom .inside l = l := by
  induction l with
  | nil => rfl
  | cons c l ih =>
    have hc : GutterState.behind c = .inside := by
      rw [GutterState.behind, if_neg]
      simpa using (List.ne_of_not_mem_cons h).symm
    rw [withoutGutterFrom, hc, ih (List.not_mem_of_not_mem_cons h)]

/-- A line behind a gutter comes back as it was written. -/
theorem withoutGutter_guttered {l : Text} (h : '\n' ∉ l) :
    withoutGutter (" * ".toList ++ l) = l := by
  show withoutGutterFrom .inside l = l
  exact withoutGutterFrom_inside h

/-- Lines, each behind a gutter and ended by a line feed. -/
def guttered (ls : List Text) : Text := ls.flatMap fun l => " * ".toList ++ (l ++ ['\n'])

theorem guttered_cons (l : Text) (ls : List Text) :
    guttered (l :: ls) = (" * ".toList ++ l) ++ '\n' :: guttered ls := by
  rw [guttered, List.flatMap_cons, guttered]
  simp

theorem not_return_guttered {ls : List Text} (h : ∀ l ∈ ls, '\r' ∉ l) : '\r' ∉ guttered ls := by
  intro hm
  obtain ⟨l, hl, hm⟩ := List.mem_flatMap.mp hm
  simp [h l hl] at hm

theorem withoutGutter_guttered_append {ls : List Text} (h : ∀ l ∈ ls, '\n' ∉ l) (s : Text) :
    withoutGutter (guttered ls ++ s) = ls.flatMap (· ++ ['\n']) ++ withoutGutter s := by
  induction ls with
  | nil => rfl
  | cons l ls ih =>
    rw [guttered_cons, List.append_assoc, List.cons_append, withoutGutter_append,
      withoutGutter_guttered (h l List.mem_cons_self),
      ih fun m hm => h m (List.mem_cons_of_mem l hm)]
    simp

/-- A closing marker in guttered lines stands in one of the lines: the gutter has a space behind its
star, and the line feed in front of the next star keeps them apart. -/
theorem not_closing_guttered {ls : List Text} (h : ∀ l ∈ ls, ¬ ['*', '/'] <:+: l) :
    ¬ ['*', '/'] <:+: guttered ls ++ [' '] := by
  induction ls with
  | nil => decide
  | cons l ls ih =>
    have hls := ih fun m hm => h m (List.mem_cons_of_mem l hm)
    have hgutter : ¬ ['*', '/'] <:+: " * ".toList := by decide
    have hstar : ¬ ['*'] <:+ " * ".toList := by decide
    rw [guttered_cons, List.append_assoc, List.append_assoc, Text.pair_infix_append,
      Text.pair_infix_append]
    rintro (hi | (hi | hi | ⟨-, hi⟩) | ⟨hi, -⟩)
    · exact hgutter hi
    · exact h l List.mem_cons_self hi
    · rw [List.cons_append, List.infix_cons_iff] at hi
      rcases hi with hi | hi
      · exact absurd (List.cons_prefix_cons.mp hi).1 (by decide)
      · exact hls hi
    · exact absurd (List.cons_prefix_cons.mp hi).1 (by decide)
    · exact hstar hi

/-! ## Single lines -/

/-- What taking the gutter off makes of a line.  The gutter is an indentation, one star, and one
space behind the star if there is one; a line that does not begin so stays as it is. -/
inductive Bares : Text → Text → Prop
  | spaced {ind r : Text} (hind : ∀ c ∈ ind, isIndent c = true) : Bares (ind ++ '*' :: ' ' :: r) r
  | tight {ind r : Text} (hind : ∀ c ∈ ind, isIndent c = true) (hr : ¬ [' '] <+: r) :
      Bares (ind ++ '*' :: r) r
  | plain {l : Text}
      (hl : ∀ ind r : Text, (∀ c ∈ ind, isIndent c = true) → l ≠ ind ++ '*' :: r) : Bares l l

/-- Blanks in front of a line are held back. -/
theorem withoutGutterFrom_indent {ind : Text} (hind : ∀ c ∈ ind, isIndent c = true)
    (held r : Text) :
    withoutGutterFrom (.front held) (ind ++ r) =
      withoutGutterFrom (.front (ind.reverse ++ held)) r := by
  induction ind generalizing held with
  | nil => rfl
  | cons c ind ih =>
    have hc : isIndent c = true := hind c List.mem_cons_self
    have hrest := ih (fun d hd => hind d (List.mem_cons_of_mem c hd)) (c :: held)
    rw [List.cons_append, withoutGutterFrom, if_pos hc, hrest, List.reverse_cons, List.append_assoc,
      List.singleton_append]

/-- A star behind them is taken off together with them. -/
theorem withoutGutter_star {ind : Text} (hind : ∀ c ∈ ind, isIndent c = true) (r : Text) :
    withoutGutter (ind ++ '*' :: r) = withoutGutterFrom .star r := by
  rw [withoutGutter, withoutGutterFrom_indent hind, withoutGutterFrom, if_neg (by decide),
    if_pos (by decide)]

theorem withoutGutterFrom_star {r : Text} (hr : ¬ [' '] <+: r) (hline : '\n' ∉ r) :
    withoutGutterFrom .star r = r := by
  cases r with
  | nil => rfl
  | cons c r =>
    have hc : ¬ (c == ' ') = true := by
      intro hc
      rw [beq_iff_eq.mp hc] at hr
      exact hr ⟨r, rfl⟩
    have hinside := withoutGutterFrom_inside hline
    rw [withoutGutterFrom] at hinside
    rw [withoutGutterFrom, if_neg hc]
    exact hinside

/-- Without a star behind them they are text. -/
theorem withoutGutter_of_not_star {l : Text} (hstar : ¬ ['*'] <+: l.dropWhile isIndent)
    (hline : '\n' ∉ l) : withoutGutter l = l := by
  have hind : ∀ c ∈ l.takeWhile isIndent, isIndent c = true := fun c hc =>
    List.mem_takeWhile_imp hc
  have hl : l.takeWhile isIndent ++ l.dropWhile isIndent = l := List.takeWhile_append_dropWhile
  have hread := withoutGutterFrom_indent hind [] (l.dropWhile isIndent)
  rw [hl, List.append_nil] at hread
  rw [withoutGutter, hread]
  cases hrest : l.dropWhile isIndent with
  | nil =>
    rw [hrest, List.append_nil] at hl
    rw [withoutGutterFrom, List.reverse_reverse, hl]
  | cons c r =>
    have hc : ¬ isIndent c = true := by
      have hnot := List.head?_dropWhile_not isIndent l
      rw [hrest] at hnot
      simpa using hnot
    have hne : ¬ (c == '*') = true := by
      intro hc
      rw [hrest, beq_iff_eq.mp hc] at hstar
      exact hstar ⟨r, rfl⟩
    have hcr : '\n' ∉ c :: r := by
      intro hn
      apply hline
      rw [← hl, hrest]
      exact List.mem_append_right _ hn
    have hinside := withoutGutterFrom_inside hcr
    rw [withoutGutterFrom] at hinside
    rw [withoutGutterFrom, if_neg hc, if_neg hne, List.reverse_reverse, hinside, ← hrest, hl]

theorem Bares.newline_not_mem {l t : Text} (h : Bares l t) (hline : '\n' ∉ l) : '\n' ∉ t := by
  intro hn
  cases h with
  | spaced hind => exact hline (by simp [hn])
  | tight hind hr => exact hline (by simp [hn])
  | plain hl => exact hline hn

theorem Bares.withoutGutter_eq {l t : Text} (h : Bares l t) (hline : '\n' ∉ l) :
    withoutGutter l = t := by
  have ht : '\n' ∉ t := h.newline_not_mem hline
  cases h with
  | spaced hind =>
    rw [withoutGutter_star hind, withoutGutterFrom, if_pos (by decide)]
    exact withoutGutterFrom_inside ht
  | tight hind hr => rw [withoutGutter_star hind, withoutGutterFrom_star hr ht]
  | plain hl =>
    refine withoutGutter_of_not_star ?_ hline
    rintro ⟨r, hr⟩
    apply hl (l.takeWhile isIndent) r fun c hc => List.mem_takeWhile_imp hc
    rw [← List.singleton_append, hr, List.takeWhile_append_dropWhile]

/-- Whatever stands in a line, one of the three cases applies. -/
theorem exists_bares (l : Text) : ∃ t, Bares l t := by
  have hind : ∀ c ∈ l.takeWhile isIndent, isIndent c = true := fun c hc =>
    List.mem_takeWhile_imp hc
  by_cases hstar : ['*'] <+: l.dropWhile isIndent
  · obtain ⟨r, hr⟩ := hstar
    have hl : l.takeWhile isIndent ++ '*' :: r = l := by
      rw [← List.singleton_append, hr, List.takeWhile_append_dropWhile]
    rw [← hl]
    by_cases hspace : [' '] <+: r
    · obtain ⟨r, rfl⟩ := hspace
      exact ⟨r, .spaced hind⟩
    · exact ⟨r, .tight hind hspace⟩
  · refine ⟨l, .plain fun ind r hind hl => hstar ⟨r, ?_⟩⟩
    rw [hl, List.dropWhile_append_of_pos hind]
    rfl

/-- Of a single line the reader takes off what `Bares` says, and `Bares` says nothing else. -/
theorem bares_iff {l t : Text} (hline : '\n' ∉ l) : Bares l t ↔ withoutGutter l = t := by
  refine ⟨fun h => h.withoutGutter_eq hline, ?_⟩
  rintro rfl
  obtain ⟨t, ht⟩ := exists_bares l
  rw [ht.withoutGutter_eq hline]
  exact ht

theorem newline_not_mem_withoutGutter {l : Text} (hline : '\n' ∉ l) : '\n' ∉ withoutGutter l :=
  ((bares_iff hline).mpr rfl).newline_not_mem hline

/-! ## All lines -/

theorem lines_withoutGutter (s : Text) :
    Text.lines (withoutGutter s) = (Text.lines s).map withoutGutter := by
  induction s using Text.lines_induction with
  | last s hs =>
    rw [Text.lines_of_not_mem hs, Text.lines_of_not_mem (newline_not_mem_withoutGutter hs),
      List.map_singleton]
  | more a b ha ih =>
    rw [withoutGutter_append, Text.lines_line_append (newline_not_mem_withoutGutter ha),
      Text.lines_line_append ha, List.map_cons, ih]

theorem forall₂_bares_iff {ls ms : List Text} (h : ∀ l ∈ ls, '\n' ∉ l) :
    List.Forall₂ Bares ls ms ↔ ls.map withoutGutter = ms := by
  induction ls generalizing ms with
  | nil => simp [eq_comm]
  | cons l ls ih =>
    obtain ⟨hl, hls⟩ := List.forall_mem_cons.mp h
    rw [List.forall₂_cons_left_iff, List.map_cons]
    constructor
    · rintro ⟨m, ms, hm, hms, rfl⟩
      rw [(bares_iff hl).mp hm, (ih hls).mp hms]
    · rintro rfl
      exact ⟨_, _, (bares_iff hl).mpr rfl, (ih hls).mpr rfl, rfl⟩

theorem count_newline_withoutGutter (s : Text) :
    (withoutGutter s).count '\n' = s.count '\n' := by
  induction s using Text.lines_induction with
  | last s hs =>
    rw [List.count_eq_zero_of_not_mem hs,
      List.count_eq_zero_of_not_mem (newline_not_mem_withoutGutter hs)]
  | more a b ha ih =>
    rw [withoutGutter_append, List.count_append, List.count_append, List.count_cons_self,
      List.count_cons_self, ih, List.count_eq_zero_of_not_mem ha,
      List.count_eq_zero_of_not_mem (newline_not_mem_withoutGutter ha)]

/-! ## Main statement -/

/-- Taking the gutter off keeps the line feeds.  Each line becomes what `Bares` makes of it and
nothing else changes, so the two sides of a line feed do not touch each other. -/
theorem withoutGutter_linewise :
    (∀ s, (withoutGutter s).count '\n' = s.count '\n') ∧
    (∀ s t, withoutGutter s = t ↔ List.Forall₂ Bares (Text.lines s) (Text.lines t)) ∧
    ∀ a b, withoutGutter (a ++ '\n' :: b) = withoutGutter a ++ '\n' :: withoutGutter b := by
  refine ⟨count_newline_withoutGutter, fun s t => ?_, withoutGutter_append⟩
  have hfree : ∀ l ∈ Text.lines s, '\n' ∉ l := fun l hl => Text.not_mem_of_mem_lines hl
  rw [forall₂_bares_iff hfree, ← lines_withoutGutter]
  constructor
  · exact fun h => congrArg Text.lines h
  · intro h
    rw [← Text.unlines_lines (withoutGutter s), h, Text.unlines_lines]

/-- A line loses one star only, and a line separator that is no line feed begins no line. -/
example : withoutGutter "\t* * x\u2028* y\n*/".toList = "* x\u2028* y\n/".toList := by decide

end Docblock.Comment
