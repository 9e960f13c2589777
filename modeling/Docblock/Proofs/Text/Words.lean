/-
# Docblock.Proofs.Text.Words — what the pieces of a text are made of.

A piece of a text has no characters but those of the text, and none of the separators; so no blank
stands in a word.  A text that is joined from pieces has their characters and those of the glue
between them.
-/
import Docblock.Proofs.Text.Lines

namespace Docblock.Text

variable {s w : Text} {c : Char}

/-! ## Pieces -/

/-- A piece between separators has characters of the text, none of which is a separator. -/
theorem of_mem_splitOnP {p : Char → Bool} (hw : w ∈ s.splitOnP p) (hc : c ∈ w) :
    c ∈ s ∧ p c = false := by
  induction s generalizing w with
  | nil =>
    rw [List.splitOnP_nil, List.mem_singleton] at hw
    exact absurd hc (hw ▸ List.not_mem_nil)
  | cons x s ih =>
    rw [List.splitOnP_cons_eq_if_modifyHead] at hw
    have behind (h : w ∈ s.splitOnP p) : c ∈ x :: s ∧ p c = false :=
      (ih h hc).imp_left (List.mem_cons_of_mem x)
    split at hw
    · -- at a separator an empty piece begins
      rcases List.mem_cons.mp hw with rfl | hw
      · exact absurd hc List.not_mem_nil
      · exact behind hw
    · next hx =>
      -- any other character goes to the first piece
      obtain ⟨v, vs, hv⟩ := List.exists_cons_of_ne_nil (List.splitOnP_ne_nil p s)
      rw [hv, List.modifyHead_cons, List.mem_cons] at hw
      rcases hw with rfl | hw
      · rcases List.mem_cons.mp hc with rfl | hc
        · exact ⟨List.mem_cons_self, Bool.eq_false_iff.mpr hx⟩
        · exact (ih (hv ▸ List.mem_cons_self) hc).imp_left (List.mem_cons_of_mem x)
      · exact behind (hv ▸ List.mem_cons_of_mem v hw)

theorem isBlank_of_mem_words (hw : w ∈ words s) (hc : c ∈ w) : isBlank c = false :=
  (of_mem_splitOnP (List.mem_filter.mp hw).1 hc).2

/-- A text that does not begin with a blank begins with its first word. -/
theorem exists_words_eq_cons (hc : isBlank c = false) (t : Text) :
    ∃ w ws, words (c :: t) = (c :: w) :: ws := by
  obtain ⟨v, vs, hv⟩ := List.exists_cons_of_ne_nil (List.splitOnP_ne_nil isBlank t)
  refine ⟨v, vs.filter (!·.isEmpty), ?_⟩
  rw [words, List.splitOnP_cons_eq_if_modifyHead, if_neg (by simp [hc]), hv, List.modifyHead_cons]
  exact List.filter_cons_of_pos rfl

theorem mem_of_mem_trim (h : c ∈ trim s) : c ∈ s := by
  have hends := trimEnd_prefix (trimStart s)
  exact (List.dropWhile_suffix isBlank).subset (hends.subset h)

/-! ## Texts joined from pieces -/

theorem of_mem_join {glue : Text} {ps : List Text} (h : c ∈ join glue ps) :
    c ∈ glue ∨ ∃ p ∈ ps, c ∈ p := by
  cases ps with
  | nil => exact absurd h List.not_mem_nil
  | cons p ps =>
    rw [join_cons, List.mem_append, List.mem_flatMap] at h
    rcases h with h | ⟨q, hq, h⟩
    · exact .inr ⟨p, List.mem_cons_self, h⟩
    · rcases List.mem_append.mp h with h | h
      · exact .inl h
      · exact .inr ⟨q, List.mem_cons_of_mem p hq, h⟩

/-- A text joined from single lines, on which the glue stands as well, is a single line. -/
theorem newline_not_mem_join {glue : Text} {ps : List Text} (hg : '\n' ∉ glue)
    (hp : ∀ p ∈ ps, '\n' ∉ p) : '\n' ∉ join glue ps := by
  intro h
  rcases of_mem_join h with h | ⟨p, hps, h⟩
  · exact hg h
  · exact hp p hps h

theorem newline_not_mem_of_mem_words (h : w ∈ words s) : '\n' ∉ w := by
  intro hn
  exact absurd (isBlank_of_mem_words h hn) (by decide)

/-! ## Titles -/

/-- A single line whose last character is not blank. -/
structure IsTitle (s : Text) : Prop where
  newline : '\n' ∉ s
  back : ∃ t x, s = t ++ [x] ∧ isBlank x = false

theorem IsTitle.append {a b : Text} (ha : '\n' ∉ a) (hb : IsTitle b) : IsTitle (a ++ b) where
  newline h := (List.mem_append.mp h).elim ha hb.newline
  back := by
    obtain ⟨t, x, rfl, hx⟩ := hb.back
    exact ⟨a ++ t, x, (List.append_assoc a t [x]).symm, hx⟩

/-- A text without blanks is a title unless it is empty. -/
theorem isTitle_of_forall (hne : s ≠ []) (h : ∀ c ∈ s, isBlank c = false) : IsTitle s where
  newline hn := absurd (h _ hn) (by decide)
  back := ⟨s.dropLast, s.getLast hne, (List.dropLast_append_getLast hne).symm,
    h _ (List.getLast_mem hne)⟩

end Docblock.Text
