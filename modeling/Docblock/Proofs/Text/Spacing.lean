/-
# Docblock.Proofs.Text.Spacing — words, and the blanks between them.

A text has its words whatever blanks stand between them and around them.  So words that are joined
by single spaces are found again (`words_unwords`), and pieces of a text with blanks between
neighbours have their words one after the other (`Spaced.words_eq`).  When single spaces take the
place of all blanks, a text that is cut at other characters falls into pieces with the words that
they had (`map_trim_splitOnP_unwords_words`).  And a text without blanks stands in another one
exactly when it stands in one of its words (`IsWord.infix_iff`).
-/
import Docblock.Proofs.Text.Words

namespace Docblock.Text

variable {s a b g w : Text} {c : Char} {p : Char → Bool}

/-! ## Cutting at other characters -/

/-- No separator is blank, so none stands among blanks. -/
theorem not_of_mem_blank (hp : ∀ x, p x = true → isBlank x = false) (hg : blank g = true) :
    ∀ x ∈ g, p x = false := by
  intro x hx
  rw [Bool.eq_false_iff]
  intro hpx
  exact Bool.false_ne_true ((hp x hpx).symm.trans (blank_iff.mp hg x hx))

/-- Blanks around a text that is cut at other characters are blanks around its pieces. -/
theorem map_trim_splitOnP_around (hp : ∀ x, p x = true → isBlank x = false) {u v : Text}
    (hu : blank u = true) (hv : blank v = true) (s : Text) :
    ((u ++ (s ++ v)).splitOnP p).map trim = (s.splitOnP p).map trim := by
  induction s using separated_induction (p := p) generalizing u with
  | last s hs =>
    have hall : ∀ x ∈ u ++ (s ++ v), p x = false := by
      rw [List.forall_mem_append, List.forall_mem_append]
      exact ⟨not_of_mem_blank hp hu, hs, not_of_mem_blank hp hv⟩
    rw [List.splitOnP_eq_singleton hall, List.splitOnP_eq_singleton hs, List.map_singleton,
      List.map_singleton, trim_append_of_blank hu hv]
  | more a c b ha hc ih =>
    have hfront : ∀ x ∈ u ++ a, p x = false :=
      List.forall_mem_append.mpr ⟨not_of_mem_blank hp hu, ha⟩
    have htrim : trim (u ++ a) = trim a := by
      have := trim_append_of_blank hu blank_nil a
      rwa [List.append_nil] at this
    have hs : u ++ (a ++ c :: b ++ v) = (u ++ a) ++ c :: (b ++ v) := by simp
    have ih := ih blank_nil
    rw [List.nil_append] at ih
    rw [hs, List.splitOnP_append_cons_of_forall_mem hfront c hc,
      List.splitOnP_append_cons_of_forall_mem ha c hc, List.map_cons, List.map_cons, htrim, ih]

/-! ## Words -/

/-- At least one character, and no blank. -/
structure IsWord (w : Text) : Prop where
  ne_nil : w ≠ []
  not_blank : ∀ x ∈ w, isBlank x = false

-- decided by a pass through the word, and not through all characters that there are
instance : DecidablePred IsWord := fun w =>
  decidable_of_iff (w ≠ [] ∧ w.all (!isBlank ·) = true)
    ⟨fun h => ⟨h.1, by simpa using h.2⟩, fun h => ⟨h.ne_nil, by simpa using h.not_blank⟩⟩

theorem isWord_of_mem_words (h : w ∈ words s) : IsWord w where
  ne_nil := by simpa using (List.mem_filter.mp h).2
  not_blank _ hx := isBlank_of_mem_words h hx

theorem words_of_not_blank (h : ∀ x ∈ s, isBlank x = false) :
    words s = if s.isEmpty then [] else [s] := by
  rw [words, List.splitOnP_eq_singleton h]
  cases s <;> rfl

@[simp] theorem words_nil : words [] = [] := words_of_not_blank (s := []) (by simp)

theorem IsWord.words_eq (h : IsWord w) : words w = [w] := by
  rw [words_of_not_blank h.not_blank, if_neg]
  simpa using h.ne_nil

/-- At a blank the words of a text are those of two. -/
theorem words_append_cons (hc : isBlank c = true) (a b : Text) :
    words (a ++ c :: b) = words a ++ words b := by
  rw [words, List.splitOnP_append_cons a b hc, List.filter_append, words, words]

theorem words_cons_of_blank (hc : isBlank c = true) (s : Text) : words (c :: s) = words s :=
  words_append_cons hc [] s

theorem words_blank_append (hg : blank g = true) (s : Text) : words (g ++ s) = words s := by
  induction g with
  | nil => rfl
  | cons c g ih =>
    rw [List.cons_append, words_cons_of_blank (blank_iff.mp hg c List.mem_cons_self)]
    apply ih
    exact blank_of_subset hg (List.subset_cons_self c g)

/-- Between two texts with blanks between them no word goes on. -/
theorem words_append_blank_append (hg : blank g = true) (hne : g ≠ []) (a b : Text) :
    words (a ++ (g ++ b)) = words a ++ words b := by
  obtain ⟨c, g, rfl⟩ := List.exists_cons_of_ne_nil hne
  have hrest : blank g = true := blank_of_subset hg (List.subset_cons_self c g)
  rw [List.cons_append, words_append_cons (blank_iff.mp hg c List.mem_cons_self),
    words_blank_append hrest]

theorem words_append_of_blank (hg : blank g = true) (s : Text) : words (s ++ g) = words s := by
  cases g with
  | nil => rw [List.append_nil]
  | cons c g =>
    have := words_append_blank_append hg (List.cons_ne_nil c g) s []
    rwa [List.append_nil, words_nil, List.append_nil] at this

/-- Characters that are not blank go to the first word of what they stand in front of. -/
theorem exists_words_append (ha : ∀ x ∈ a, isBlank x = false) (hne : a ≠ []) (s : Text) :
    ∃ v vs, s.splitOnP isBlank = v :: vs ∧ words (a ++ s) = (a ++ v) :: vs.filter (!·.isEmpty) := by
  obtain ⟨v, vs, hv⟩ := List.exists_cons_of_ne_nil (List.splitOnP_ne_nil isBlank s)
  have hsplit : (a ++ s).splitOnP isBlank = (a ++ v) :: vs := by
    clear hne
    induction a with
    | nil => exact hv
    | cons x a ih =>
      have ih := ih fun y hy => ha y (List.mem_cons_of_mem x hy)
      have hx := ha x List.mem_cons_self
      rw [List.cons_append, List.splitOnP_cons_eq_if_modifyHead, if_neg (by simp [hx]), ih]
      rfl
  refine ⟨v, vs, hv, ?_⟩
  rw [words, hsplit, List.filter_cons_of_pos (by simp [hne])]

/-- A character in front of a text is a word of its own, or begins the first word. -/
theorem words_cons_cases (hc : isBlank c = false) (s : Text) :
    words (c :: s) = [c] :: words s ∨
      ∃ w ws, words s = w :: ws ∧ words (c :: s) = (c :: w) :: ws := by
  obtain ⟨v, vs, hv, hcons⟩ := exists_words_append (a := [c]) (by simpa using hc) (by simp) s
  have hs : words s = (v :: vs).filter (!·.isEmpty) := by rw [words, hv]
  rw [List.singleton_append] at hcons
  rw [hcons, hs]
  cases v with
  | nil => exact .inl rfl
  | cons x v => exact .inr ⟨x :: v, _, List.filter_cons_of_pos rfl, rfl⟩

/-- A character at the end of a text ends the last word, and the words in front are of the text. -/
theorem exists_words_concat (hc : isBlank c = false) (s : Text) :
    ∃ ws w, words (s ++ [c]) = ws ++ [w ++ [c]] ∧ ∀ v ∈ ws, v ∈ words s := by
  induction s using separated_induction (p := isBlank) with
  | last s hs =>
    have hword : IsWord (s ++ [c]) := by
      refine ⟨List.append_ne_nil_of_right_ne_nil s (List.cons_ne_nil c []), ?_⟩
      exact List.forall_mem_append.mpr ⟨hs, List.forall_mem_singleton.mpr hc⟩
    exact ⟨[], s, hword.words_eq, by simp⟩
  | more a d b _ hd ih =>
    obtain ⟨ws, w, hws, hmem⟩ := ih
    refine ⟨words a ++ ws, w, ?_, ?_⟩
    · rw [List.append_assoc, List.cons_append, words_append_cons hd, hws, List.append_assoc]
    · intro v hv
      rw [words_append_cons hd]
      rcases List.mem_append.mp hv with hv | hv
      · exact List.mem_append_left _ hv
      · exact List.mem_append_right _ (hmem v hv)

/-- What stands between two separators holds a text that none of them stands in. -/
theorem infix_append_cons_iff {m : Text} (h : c ∉ m) :
    m <:+: a ++ c :: b ↔ m <:+: a ∨ m <:+: b := by
  constructor
  · intro hi
    rcases List.infix_append_iff_ne_nil.mp hi with hi | hi | ⟨l₁, l₂, -, h₂, rfl, -, hp⟩
    · exact .inl hi
    · rcases List.infix_cons_iff.mp hi with hp | hi
      · cases m with
        | nil => exact .inr List.nil_infix
        | cons x m =>
          obtain ⟨rfl, -⟩ := List.cons_prefix_cons.mp hp
          exact absurd List.mem_cons_self h
      · exact .inr hi
    · obtain ⟨x, l₂, rfl⟩ := List.exists_cons_of_ne_nil h₂
      obtain ⟨rfl, -⟩ := List.cons_prefix_cons.mp hp
      exact absurd (by simp) h
  · rintro (hi | hi)
    · exact List.infix_append_of_infix_left hi
    · exact List.infix_append_of_infix_right (List.infix_cons hi)

/-- A text without blanks stands in one of the words, if it stands anywhere. -/
theorem IsWord.infix_iff {m : Text} (hm : IsWord m) : m <:+: s ↔ ∃ w ∈ words s, m <:+: w := by
  induction s using separated_induction (p := isBlank) with
  | last s hs =>
    rw [words_of_not_blank hs]
    cases s with
    | nil =>
      constructor
      · intro hi
        exact absurd (List.infix_nil.mp hi) hm.ne_nil
      · rintro ⟨w, hw, -⟩
        exact absurd hw List.not_mem_nil
    | cons x s => simp
  | more a c b ha hc ih =>
    have hcm : c ∉ m := by
      intro hmem
      rw [hm.not_blank c hmem] at hc
      exact Bool.false_ne_true hc
    have ha' : m <:+: a ↔ ∃ w ∈ words a, m <:+: w := by
      rw [words_of_not_blank ha]
      cases a with
      | nil => simpa using hm.ne_nil
      | cons x a => simp
    rw [infix_append_cons_iff hcm, words_append_cons hc, ih, ha']
    simp only [List.mem_append, or_and_right, exists_or]

theorem words_ne_nil (hc : isBlank c = false) (h : c ∈ s) : words s ≠ [] := by
  have hword : IsWord [c] := ⟨List.cons_ne_nil c [], by simpa using hc⟩
  obtain ⟨u, v, rfl⟩ := List.append_of_mem h
  obtain ⟨w, hw, -⟩ := (hword.infix_iff (s := u ++ c :: v)).mp ⟨u, v, by simp⟩
  exact List.ne_nil_of_mem hw

/-! ## Words with single spaces -/

@[simp] theorem unwords_nil : unwords [] = [] := rfl

@[simp] theorem unwords_singleton (w : Text) : unwords [w] = w := by
  rw [unwords, join, List.intercalate_singleton]

theorem unwords_cons_cons (w v : Text) (vs : List Text) :
    unwords (w :: v :: vs) = w ++ ' ' :: unwords (v :: vs) :=
  join_cons_cons [' '] w v vs

/-- Joined words are found again. -/
theorem words_unwords {ws : List Text} (h : ∀ w ∈ ws, IsWord w) : words (unwords ws) = ws := by
  induction ws with
  | nil => exact words_nil
  | cons w ws ih =>
    have hw := (h w List.mem_cons_self).words_eq
    have ih := ih fun v hv => h v (List.mem_cons_of_mem w hv)
    cases ws with
    | nil => rw [unwords_singleton, hw]
    | cons v vs =>
      rw [unwords_cons_cons, words_append_cons (by decide), hw, ih, List.singleton_append]

theorem IsWord.tight (h : IsWord w) : Tight w where
  front := by
    obtain ⟨x, t, rfl⟩ := List.exists_cons_of_ne_nil h.ne_nil
    exact ⟨x, t, rfl, h.not_blank x List.mem_cons_self⟩
  back := ⟨w.dropLast, w.getLast h.ne_nil, (List.dropLast_append_getLast h.ne_nil).symm,
    h.not_blank _ (List.getLast_mem h.ne_nil)⟩

theorem trim_unwords {ws : List Text} (h : ∀ w ∈ ws, IsWord w) :
    trim (unwords ws) = unwords ws := by
  cases ws with
  | nil => rfl
  | cons w ws =>
    apply Tight.trim_eq
    apply tight_join
    intro v hv
    exact (h v hv).tight

theorem unwords_append {ws vs : List Text} (hw : ws ≠ []) (hv : vs ≠ []) :
    unwords (ws ++ vs) = unwords ws ++ ' ' :: unwords vs :=
  join_append [' '] hw hv

/-! ## Pieces with blanks between them -/

/-- The pieces stand in a text in this order, with at least one blank between neighbours. -/
inductive Spaced : List Text → Text → Prop
  | single (p : Text) : Spaced [p] p
  | cons {p g s : Text} {ps : List Text} :
      g ≠ [] → blank g = true → Spaced ps s → Spaced (p :: ps) (p ++ (g ++ s))

/-- The words of the text are those of the pieces. -/
theorem Spaced.words_eq {ps : List Text} (h : Spaced ps s) : words s = ps.flatMap words := by
  induction h with
  | single p => rw [List.flatMap_singleton]
  | cons hne hg _ ih => rw [words_append_blank_append hg hne, ih, List.flatMap_cons]

theorem flatMap_words {ws : List Text} (h : ∀ w ∈ ws, IsWord w) : ws.flatMap words = ws := by
  induction ws with
  | nil => rfl
  | cons w ws ih =>
    rw [List.flatMap_cons, (h w List.mem_cons_self).words_eq,
      ih fun v hv => h v (List.mem_cons_of_mem w hv), List.singleton_append]

/-! ## Single spaces in place of all blanks -/

/-- With single spaces in place of all blanks, nothing but blanks changes behind a character. -/
theorem exists_unwords_words_cons (hc : isBlank c = false) (s : Text) :
    ∃ g, blank g = true ∧ unwords (words (c :: s)) = c :: (g ++ unwords (words s)) := by
  rcases words_cons_cases hc s with h | ⟨w, ws, hs, h⟩
  · -- the character is a word
    rw [h]
    cases words s with
    | nil => exact ⟨[], blank_nil, rfl⟩
    | cons v vs => exact ⟨[' '], by decide, unwords_cons_cons [c] v vs⟩
  · -- the character begins the first word
    refine ⟨[], blank_nil, ?_⟩
    rw [h, hs]
    cases ws with
    | nil => simp
    | cons v vs => simp [unwords_cons_cons]

/-- The same holds in front of it. -/
theorem exists_unwords_words_append_cons (hc : isBlank c = false) (a b : Text) :
    ∃ g, blank g = true ∧
      unwords (words (a ++ c :: b)) = unwords (words a) ++ (g ++ unwords (words (c :: b))) := by
  induction a using separated_induction (p := isBlank) with
  | last a ha =>
    refine ⟨[], blank_nil, ?_⟩
    cases a with
    | nil => rfl
    | cons x a =>
      -- the first word behind `x :: a` goes on with it
      have hac : ∀ y ∈ (x :: a) ++ [c], isBlank y = false :=
        List.forall_mem_append.mpr ⟨ha, List.forall_mem_singleton.mpr hc⟩
      obtain ⟨v, vs, hv, hb⟩ := exists_words_append (a := [c]) (by simpa using hc) (by simp) b
      obtain ⟨v', vs', hv', hab⟩ := exists_words_append hac (by simp) b
      obtain ⟨rfl, rfl⟩ := List.cons.inj (hv'.symm.trans hv)
      rw [List.append_assoc, List.singleton_append] at hab
      rw [List.singleton_append] at hb
      rw [hab, hb, words_of_not_blank ha]
      cases vs'.filter (!·.isEmpty) with
      | nil => simp
      | cons u us => simp [unwords_cons_cons]
  | more a d a' ha hd ih =>
    obtain ⟨g, hg, heq⟩ := ih
    have hne : words (a' ++ c :: b) ≠ [] := words_ne_nil hc (by simp)
    rw [List.append_assoc, List.cons_append, words_append_cons hd, words_append_cons hd]
    by_cases hna : words a = []
    · rw [hna]
      exact ⟨g, hg, heq⟩
    · by_cases hna' : words a' = []
      · -- only blanks stand between the words of `a` and the character
        refine ⟨' ' :: g, blank_cons (by decide) hg, ?_⟩
        rw [unwords_append hna hne, heq, hna', List.append_nil, unwords_nil]
        rfl
      · refine ⟨g, hg, ?_⟩
        rw [unwords_append hna hne, heq, unwords_append hna hna']
        simp

/-- When single spaces take the place of all blanks, the pieces between other characters keep their
words. -/
theorem map_trim_splitOnP_unwords_words (hp : ∀ x, p x = true → isBlank x = false) (s : Text) :
    ((unwords (words s)).splitOnP p).map trim = (s.splitOnP p).map fun t => unwords (words t) := by
  have hfree : ∀ t : Text, (∀ x ∈ t, p x = false) → ∀ x ∈ unwords (words t), p x = false := by
    intro t ht x hx
    rcases of_mem_join hx with hx | ⟨w, hw, hx⟩
    · rw [Bool.eq_false_iff]
      intro hpx
      rw [List.mem_singleton.mp hx] at hpx
      exact absurd (hp _ hpx) (by decide)
    · exact ht x (of_mem_splitOnP (List.mem_filter.mp hw).1 hx).1
  have htrim : ∀ t : Text, trim (unwords (words t)) = unwords (words t) := fun t =>
    trim_unwords fun w hw => isWord_of_mem_words hw
  induction s using separated_induction (p := p) with
  | last s hs =>
    rw [List.splitOnP_eq_singleton (hfree s hs), List.splitOnP_eq_singleton hs, List.map_singleton,
      List.map_singleton, htrim]
  | more a c b ha hc ih =>
    obtain ⟨g, hg, hcons⟩ := exists_unwords_words_append_cons (hp c hc) a b
    obtain ⟨g', hg', hb⟩ := exists_unwords_words_cons (hp c hc) b
    have hfront : ∀ x ∈ unwords (words a) ++ g, p x = false :=
      List.forall_mem_append.mpr ⟨hfree a ha, not_of_mem_blank hp hg⟩
    have hpiece : trim (unwords (words a) ++ g) = unwords (words a) := by
      have := trim_append_of_blank blank_nil hg (unwords (words a))
      rwa [List.nil_append, htrim] at this
    have hrest := map_trim_splitOnP_around hp hg' blank_nil (unwords (words b))
    rw [List.append_nil] at hrest
    rw [hcons, hb, ← List.append_assoc, List.splitOnP_append_cons_of_forall_mem hfront c hc,
      List.splitOnP_append_cons_of_forall_mem ha c hc, List.map_cons, List.map_cons, hpiece, hrest,
      ih]

end Docblock.Text
