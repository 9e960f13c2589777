/-
# Docblock.Proofs.Text.Lines — the lines of a text.

The lines of a text are its pieces between line feeds, and putting them together again gives the
text.  A line feed ends a line wherever it stands, so the lines of two texts with a line feed
between them are the lines of the one followed by the lines of the other (`lines_append`).  A
statement about all texts can be proved line by line (`lines_induction`).
-/
import Docblock.Proofs.Text.Cutting
import Docblock.Proofs.Text.Trimming

namespace Docblock.Text

/-! ## Lines -/

@[simp] theorem lines_ne_nil (s : Text) : lines s ≠ [] := List.splitOn_ne_nil '\n' s

@[simp] theorem unlines_lines (s : Text) : unlines (lines s) = s := List.intercalate_splitOn '\n'

theorem lines_of_not_mem {s : Text} (h : '\n' ∉ s) : lines s = [s] := List.splitOn_eq_singleton h

theorem lines_append (a b : Text) : lines (a ++ '\n' :: b) = lines a ++ lines b :=
  List.splitOn_append_cons_self a b

/-- A text has no separators, or it is a text without them, a separator and a shorter text. -/
@[elab_as_elim]
theorem separated_induction {p : Char → Bool} {P : Text → Prop}
    (last : ∀ s, (∀ x ∈ s, p x = false) → P s)
    (more : ∀ a c b, (∀ x ∈ a, p x = false) → p c = true → P b → P (a ++ c :: b)) (s : Text) :
    P s := by
  have hs := List.takeWhile_append_dropWhile (p := fun x => !p x) (l := s)
  have hfront : ∀ x ∈ s.takeWhile (fun x => !p x), p x = false := by
    intro x hx
    simpa using List.mem_takeWhile_imp hx
  cases hrest : s.dropWhile (fun x => !p x) with
  | nil =>
    rw [hrest, List.append_nil] at hs
    rw [← hs]
    exact last _ hfront
  | cons c b =>
    rw [hrest] at hs
    have hc := List.head?_dropWhile_not (fun x => !p x) s
    rw [hrest] at hc
    have hlt : b.length < s.length := by
      rw [← hs, List.length_append, List.length_cons]
      omega
    rw [← hs]
    exact more _ c b hfront (by simpa using hc) (separated_induction last more b)
termination_by s.length

/-- A text is its last line, or a line, a line feed and a text with one line less. -/
@[elab_as_elim]
theorem lines_induction {P : Text → Prop} (last : ∀ s, '\n' ∉ s → P s)
    (more : ∀ a b, '\n' ∉ a → P b → P (a ++ '\n' :: b)) (s : Text) : P s := by
  have free : ∀ {t : Text}, (∀ x ∈ t, (x == '\n') = false) → '\n' ∉ t := by
    intro t ht hn
    exact absurd (ht _ hn) (by decide)
  induction s using separated_induction (p := (· == '\n')) with
  | last s hs => exact last s (free hs)
  | more a c b ha hc ih =>
    rw [beq_iff_eq.mp hc]
    exact more a b (free ha) ih

theorem lines_line_append {a : Text} (ha : '\n' ∉ a) (b : Text) :
    lines (a ++ '\n' :: b) = a :: lines b := by
  rw [lines_append, lines_of_not_mem ha, List.singleton_append]

@[simp] theorem unlines_singleton (p : Text) : unlines [p] = p := by
  rw [unlines, join, List.intercalate_singleton]

theorem unlines_cons_cons (p q : Text) (qs : List Text) :
    unlines (p :: q :: qs) = p ++ '\n' :: unlines (q :: qs) :=
  join_cons_cons ['\n'] p q qs

theorem join_cons (glue p : Text) (ps : List Text) :
    join glue (p :: ps) = p ++ ps.flatMap (glue ++ ·) := by
  induction ps generalizing p with
  | nil => simp [join]
  | cons q qs ih =>
    rw [join_cons_cons, ih, List.flatMap_cons, List.append_assoc]

/-- Every line ended by a line feed is the lines put together and one line feed more. -/
theorem flatMap_concat_newline {l : Text} {ls : List Text} :
    (l :: ls).flatMap (· ++ ['\n']) = unlines (l :: ls) ++ ['\n'] := by
  rw [unlines, join_cons]
  induction ls generalizing l with
  | nil => simp
  | cons m ms ih =>
    rw [List.flatMap_cons, ih]
    simp

theorem flatMap_lines_ne_nil {p : Text} {ps : List Text} : (p :: ps).flatMap lines ≠ [] := by
  rw [List.flatMap_cons]
  exact List.append_ne_nil_of_left_ne_nil (lines_ne_nil p) _

theorem join_append (glue : Text) {ls ms : List Text} (hl : ls ≠ []) (hm : ms ≠ []) :
    join glue (ls ++ ms) = join glue ls ++ (glue ++ join glue ms) := by
  obtain ⟨l, ls, rfl⟩ := List.exists_cons_of_ne_nil hl
  obtain ⟨m, ms, rfl⟩ := List.exists_cons_of_ne_nil hm
  simp only [List.cons_append, join_cons, List.flatMap_append, List.flatMap_cons,
    List.append_assoc]

theorem unlines_append {ls ms : List Text} (hl : ls ≠ []) (hm : ms ≠ []) :
    unlines (ls ++ ms) = unlines ls ++ '\n' :: unlines ms :=
  join_append ['\n'] hl hm

/-- The lines of several texts are the lines of the texts put together. -/
theorem unlines_flatMap_lines {p : Text} {ps : List Text} :
    unlines ((p :: ps).flatMap lines) = unlines (p :: ps) := by
  induction ps generalizing p with
  | nil => rw [List.flatMap_singleton, unlines_lines, unlines_singleton]
  | cons q qs ih =>
    have hu := unlines_append (List.cons_ne_nil p []) (List.cons_ne_nil q qs)
    rw [unlines_singleton] at hu
    rw [List.flatMap_cons, unlines_append (lines_ne_nil p) flatMap_lines_ne_nil, ih, unlines_lines]
    exact hu.symm

/-- What stands in a line stands in the text. -/
theorem infix_of_mem_lines {l s : Text} (h : l ∈ lines s) : l <:+: s := by
  induction s using lines_induction with
  | last s hs =>
    rw [lines_of_not_mem hs, List.mem_singleton] at h
    exact h ▸ List.infix_rfl
  | more a b ha ih =>
    rw [lines_line_append ha, List.mem_cons] at h
    rcases h with rfl | h
    · exact List.infix_append_of_infix_left List.infix_rfl
    · exact List.infix_append_of_infix_right (List.infix_cons (ih h))

theorem not_mem_of_mem_lines {l s : Text} (h : l ∈ lines s) : '\n' ∉ l := by
  induction s using lines_induction with
  | last s hs =>
    rw [lines_of_not_mem hs, List.mem_singleton] at h
    exact h ▸ hs
  | more a b ha ih =>
    rw [lines_line_append ha, List.mem_cons] at h
    rcases h with rfl | h
    · exact ha
    · exact ih h

/-- The first line begins with a character other than a line feed when the text does. -/
theorem exists_lines_eq_cons {x : Char} (hx : x ≠ '\n') (s : Text) :
    ∃ l ls, lines s = l :: ls ∧ ([x] <+: l ↔ [x] <+: s) := by
  induction s using lines_induction with
  | last s hs => exact ⟨s, [], lines_of_not_mem hs, Iff.rfl⟩
  | more a b ha _ =>
    refine ⟨a, lines b, lines_line_append ha b, ?_⟩
    cases a with
    | nil => simp [hx]
    | cons y a => simp [List.cons_prefix_cons]

/-- A character behind a line feed begins a line that is not the first one. -/
theorem newline_infix_iff {x : Char} (hx : x ≠ '\n') {s : Text} :
    ['\n', x] <:+: s ↔ ∃ l ∈ (lines s).tail, [x] <+: l := by
  induction s using lines_induction with
  | last s hs =>
    rw [lines_of_not_mem hs]
    constructor
    · exact fun h => absurd (h.subset List.mem_cons_self) hs
    · rintro ⟨l, hl, -⟩
      exact absurd hl List.not_mem_nil
  | more a b ha ih =>
    obtain ⟨l, ls, hl, hp⟩ := exists_lines_eq_cons hx b
    have hin : ¬ ['\n', x] <:+: a := fun h => ha (h.subset List.mem_cons_self)
    have hend : ¬ ['\n'] <:+ a := fun h => ha (h.subset List.mem_cons_self)
    rw [lines_line_append ha, List.tail_cons, hl, pair_infix_append, List.infix_cons_iff,
      List.cons_prefix_cons, ih, hl]
    simp only [hin, false_or, List.mem_cons, exists_eq_or_imp, List.tail_cons, hp, true_and]
    constructor
    · rintro (h | ⟨-, h⟩)
      · exact h
      · exact absurd (List.cons_prefix_cons.mp h).1 hx
    · exact Or.inl

/-! ## Texts without blanks at their ends -/

theorem tight_join (glue : Text) {p : Text} {ps : List Text} (h : ∀ q ∈ p :: ps, Tight q) :
    Tight (join glue (p :: ps)) := by
  induction ps generalizing p with
  | nil => simpa [join] using h p List.mem_cons_self
  | cons q qs ih =>
    rw [join_cons_cons]
    exact (h p List.mem_cons_self).append (ih fun r hr => h r (List.mem_cons_of_mem p hr)) glue

theorem tight_unlines {p : Text} {ps : List Text} (h : ∀ q ∈ p :: ps, Tight q) :
    Tight (unlines (p :: ps)) :=
  tight_join ['\n'] h

end Docblock.Text
