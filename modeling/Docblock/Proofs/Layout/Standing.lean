/-
# Docblock.Proofs.Layout.Standing — where a reader stands.

A reader who goes through a source character by character stands in code, in a line comment or in a
block comment, and two characters together may take it from one to another.  This is told without
the layout, and the layout of a source says where the reader stands behind it
(`standing_ofSource`): in a block comment when the last one is left open, and else where the last
run of code leaves it.  A reader who stands in code, and does not have a slash of code right behind
it, reads whatever follows as if nothing stood in front (`before_of_standing`).
-/
import Docblock.Proofs.Layout.Seam

namespace Docblock

/-- Where a reader of a source stands. -/
inductive Standing where
  | code
  | lineComment
  | blockComment
  deriving DecidableEq, Repr

namespace Standing

/-- Where a reader stands behind a text in front of which it stood at the given place. -/
def behind : Standing → Text → Standing
  | st, [] => st
  | code, '/' :: '*' :: r => behind blockComment r
  | code, '/' :: '/' :: r => behind lineComment r
  | code, _ :: r => behind code r
  | lineComment, c :: r => behind (if c = '\n' then code else lineComment) r
  | blockComment, '*' :: '/' :: r => behind code r
  | blockComment, _ :: r => behind blockComment r

theorem behind_blockOpening (s : Text) :
    behind code ('/' :: '*' :: s) = behind blockComment s := rfl

theorem behind_lineOpening (s : Text) : behind code ('/' :: '/' :: s) = behind lineComment s := rfl

theorem behind_closing (s : Text) : behind blockComment ('*' :: '/' :: s) = behind code s := rfl

theorem behind_lineComment_cons (x : Char) (s : Text) :
    behind lineComment (x :: s) = behind (if x = '\n' then code else lineComment) s := by
  rw [behind]

/-! ## Runs of code -/

theorem behind_ordinary {x : Char} {s : Text} (h : ¬ Layout.BeginsComment (x :: s)) :
    behind code (x :: s) = behind code s := by
  rw [behind]
  · rintro r rfl rfl
    exact h (Or.inr ⟨r, rfl⟩)
  · rintro r rfl rfl
    exact h (Or.inl ⟨r, rfl⟩)

/-- What stands in a line comment leaves the reader in it. -/
theorem behind_inLine {t : Text} (h : '\n' ∉ t) (s : Text) :
    behind lineComment (t ++ s) = behind lineComment s := by
  induction t with
  | nil => rfl
  | cons x t ih =>
    have hx : ¬ x = '\n' := (List.ne_of_not_mem_cons h).symm
    rw [List.cons_append, behind_lineComment_cons, if_neg hx]
    exact ih (List.not_mem_of_not_mem_cons h)

/-- With the end of its line a line comment ends. -/
theorem behind_newline (s : Text) : behind lineComment ('\n' :: s) = behind code ('\n' :: s) := by
  rw [behind_ordinary (Layout.not_beginsComment_newline s), behind_lineComment_cons, if_pos rfl]

/-- A reader comes through a run of code to the opening marker behind it. -/
theorem behind_code_opening {c r : Text} (h : Layout.Code c r) {s : Text}
    (hr : r = '/' :: '*' :: s) : behind code (c ++ r) = behind blockComment s := by
  induction h with
  | nil r =>
    rw [hr, List.nil_append, behind_blockOpening]
  | ordinary hx _ ih =>
    rw [List.cons_append, behind_ordinary hx]
    exact ih hr
  | @lineComment t c r ht he _ ih =>
    -- the line comment has an end, for the opening marker stands behind it
    have hend : behind lineComment (c ++ r) = behind code (c ++ r) := by
      rcases he with hn | ⟨w, hw⟩
      · rw [hr] at hn
        exact absurd (List.append_eq_nil_iff.mp hn).2 (List.cons_ne_nil _ _)
      · rw [← hw]
        exact behind_newline w
    rw [List.cons_append, List.cons_append, List.append_assoc, behind_lineOpening,
      behind_inLine ht, hend]
    exact ih hr

/-- A run of code at the end of a source does not leave the reader in a block comment. -/
theorem behind_code_ne_blockComment {c r : Text} (h : Layout.Code c r) (hr : r = []) :
    behind code c ≠ blockComment := by
  induction h with
  | nil _ => exact Standing.noConfusion
  | @ordinary x c r hx _ ih =>
    rw [hr, List.append_nil] at hx
    rw [behind_ordinary hx]
    exact ih hr
  | @lineComment t c r ht he _ ih =>
    rw [behind_lineOpening, behind_inLine ht]
    rw [hr, List.append_nil] at he
    rcases he with rfl | ⟨w, rfl⟩
    · exact Standing.noConfusion
    · show behind lineComment ('\n' :: w) ≠ blockComment
      rw [behind_newline]
      exact ih hr

/-- When a run of code leaves the reader in code and does not end with a slash, anything may follow
it. -/
theorem code_of_behind {c s : Text} (h : Layout.Code c s) (hs : s = [])
    (hc : behind code c = code) (hslash : ¬ ['/'] <:+ c) (r : Text) : Layout.Code c r := by
  have hhead : ∀ {d : Text}, d ≠ [] → (d ++ r).head? = d.head? := by
    intro d hd
    obtain ⟨y, d, rfl⟩ := List.exists_cons_of_ne_nil hd
    rfl
  induction h with
  | nil _ => exact Layout.Code.nil r
  | @ordinary x c s hx _ ih =>
    rw [hs, List.append_nil] at hx
    rw [behind_ordinary hx] at hc
    refine Layout.Code.ordinary ?_ (ih hs hc fun hd => hslash (hd.trans (List.suffix_cons x c)))
    intro hb
    by_cases hn : c = []
    · -- the run ends here, with a character that is no slash
      have hx : x = '/' := (Layout.beginsComment_cons_iff.mp hb).1
      exact hslash (by rw [hn, hx])
    · rw [Layout.beginsComment_cons_iff, hhead hn, ← Layout.beginsComment_cons_iff] at hb
      exact hx hb
  | @lineComment t c s ht he _ ih =>
    rw [behind_lineOpening, behind_inLine ht] at hc
    rw [hs, List.append_nil] at he
    rcases he with rfl | ⟨w, rfl⟩
    · -- the line comment has no end, and the reader would stand in it
      exact absurd hc Standing.noConfusion
    · have hc' : behind code ('\n' :: w) = code := (behind_newline w).symm.trans hc
      have hd : ¬ ['/'] <:+ '\n' :: w := fun hd =>
        hslash (hd.trans (List.suffix_append ('/' :: '/' :: t) ('\n' :: w)))
      exact Layout.Code.lineComment ht (Or.inr ⟨w ++ r, rfl⟩) (ih hs hc' hd)

/-! ## Block comments -/

theorem behind_blockComment_cons {x : Char} {s : Text} (h : ¬ ['*', '/'] <+: x :: s) :
    behind blockComment (x :: s) = behind blockComment s := by
  rw [behind]
  rintro r rfl rfl
  exact h ⟨r, rfl⟩

/-- A text without a closing marker leaves the reader in the block comment. -/
theorem behind_body {t : Text} (h : ¬ ['*', '/'] <:+: t) :
    behind blockComment t = blockComment := by
  induction t with
  | nil => rfl
  | cons x t ih =>
    rw [behind_blockComment_cons fun hp => h hp.isInfix]
    exact ih fun hi => h (List.infix_cons hi)

/-- The first closing marker takes the reader out of the block comment. -/
theorem behind_body_closing {t : Text} (h : ¬ ['*', '/'] <:+: t) (r : Text) :
    behind blockComment (t ++ '*' :: '/' :: r) = behind code r := by
  induction t with
  | nil => exact behind_closing r
  | cons x t ih =>
    have hclear : Text.Clear ['*', '/'] (x :: t) := (Text.clear_pair_iff (by decide)).mpr h
    have hp : ¬ ['*', '/'] <+: x :: (t ++ '*' :: '/' :: r) := hclear.not_prefix r
    rw [List.cons_append, behind_blockComment_cons hp]
    exact ih fun hi => h (List.infix_cons hi)

/-- The mark and the body of a block comment hold no closing marker. -/
theorem not_closing_marked {b : BlockComment} (h : b.Grammatical) :
    ¬ ['*', '/'] <:+: (if b.marked then ['!'] else []) ++ b.body := by
  cases b.marked with
  | false => exact h.not_closing
  | true =>
    show ¬ ['*', '/'] <:+: '!' :: b.body
    intro hi
    rcases List.infix_cons_iff.mp hi with hp | hi
    · exact absurd (List.cons_prefix_cons.mp hp).1 (by decide)
    · exact h.not_closing hi

theorem behind_closed {b : BlockComment} (h : b.Grammatical) (hb : b.closed = true) (r : Text) :
    behind code (b.text ++ r) = behind code r := by
  have ht : b.text ++ r =
      '/' :: '*' :: (((if b.marked then ['!'] else []) ++ b.body) ++ '*' :: '/' :: r) := by
    simp [BlockComment.text, hb]
  rw [ht, behind_blockOpening, behind_body_closing (not_closing_marked h)]

theorem behind_open {b : BlockComment} (h : b.Grammatical) (hb : b.closed = false) :
    behind code b.text = blockComment := by
  have ht : b.text = '/' :: '*' :: ((if b.marked then ['!'] else []) ++ b.body) := by
    simp [BlockComment.text, hb]
  rw [ht, behind_blockOpening, behind_body (not_closing_marked h)]

end Standing

namespace Layout

open Standing (behind)

/-! ## Whole sources -/

/-- The run of code at the end of a source. -/
def lastRun (l : Layout) : Text := (l.parts.getLast?.map Prod.snd).getD l.lead

/-- Whether the last block comment of a source is left open. -/
def isOpen (l : Layout) : Bool := l.parts.getLast?.any fun p => !p.1.closed

/-- A reader comes through a run of code in front of block comments as if it were not there. -/
theorem behind_code_parts {c : Text} {ps : List (BlockComment × Text)} (h : Code c (partsText ps))
    (hp : Parts ps) (hne : ps ≠ []) :
    behind .code (c ++ partsText ps) = behind .code (partsText ps) := by
  obtain ⟨s, hs⟩ := hp.text_eq.resolve_left hne
  rw [Standing.behind_code_opening h hs, hs, Standing.behind_blockOpening]

/-- Behind block comments the reader stands where the last of them and the code behind it leave
it. -/
theorem Parts.behind_text {ps : List (BlockComment × Text)} (h : Parts ps) {b : BlockComment}
    {c : Text} (hl : ps.getLast? = some (b, c)) :
    behind .code (partsText ps) = if b.closed then behind .code c else .blockComment := by
  induction h with
  | nil => exact absurd hl (by simp)
  | unclosed hb hg =>
    obtain ⟨rfl, rfl⟩ := Prod.mk.inj (Option.some.inj hl)
    rw [partsText_cons, partsText_nil, List.append_nil, List.append_nil, hb]
    exact Standing.behind_open hg hb
  | @closed b' c' ps hb hg hc hp ih =>
    rw [partsText_cons, List.append_assoc, Standing.behind_closed hg hb]
    cases ps with
    | nil =>
      obtain ⟨rfl, rfl⟩ := Prod.mk.inj (Option.some.inj hl)
      rw [partsText_nil, List.append_nil, hb, if_pos rfl]
    | cons p ps =>
      rw [List.getLast?_cons_cons] at hl
      rw [behind_code_parts hc hp (List.cons_ne_nil p ps)]
      exact ih hl

/-- The run of code behind the last block comment is one to the end of the source. -/
theorem Parts.code_getLast {ps : List (BlockComment × Text)} (h : Parts ps) {b : BlockComment}
    {c : Text} (hl : ps.getLast? = some (b, c)) : Code c [] := by
  induction h with
  | nil => exact absurd hl (by simp)
  | unclosed =>
    obtain ⟨-, rfl⟩ := Prod.mk.inj (Option.some.inj hl)
    exact Code.nil []
  | @closed b' c' ps _ _ hc _ ih =>
    cases ps with
    | nil =>
      obtain ⟨-, rfl⟩ := Prod.mk.inj (Option.some.inj hl)
      exact hc
    | cons p ps =>
      rw [List.getLast?_cons_cons] at hl
      exact ih hl

theorem Grammatical.code_lastRun {l : Layout} (h : l.Grammatical) : Code l.lastRun [] := by
  rw [lastRun]
  cases hl : l.parts.getLast? with
  | none =>
    have hlead := h.lead
    rw [List.getLast?_eq_none_iff.mp hl] at hlead
    exact hlead
  | some p => exact h.parts.code_getLast hl

/-- The layout of a source says where a reader stands behind it. -/
theorem standing_ofSource (s : Text) :
    behind .code s =
      if (ofSource s).isOpen then .blockComment else behind .code (ofSource s).lastRun := by
  have hg := ofSource_grammatical s
  have ht := text_ofSource s
  generalize ofSource s = l at hg ht
  rw [← ht, text, isOpen, lastRun]
  cases hl : l.parts.getLast? with
  | none =>
    rw [List.getLast?_eq_none_iff] at hl
    rw [hl, partsText_nil, List.append_nil]
    rfl
  | some p =>
    obtain ⟨b, c⟩ := p
    have hne : l.parts ≠ [] := by
      intro hn
      simp [hn] at hl
    rw [behind_code_parts hg.lead hg.parts hne, hg.parts.behind_text hl]
    cases hb : b.closed <;> simp [hb]

/-- A reader ends in a block comment when the last one is left open, and only then. -/
theorem standing_eq_blockComment_iff {s : Text} :
    behind .code s = .blockComment ↔ (ofSource s).isOpen = true := by
  rw [standing_ofSource]
  constructor
  · intro h
    by_contra ho
    rw [if_neg ho] at h
    exact Standing.behind_code_ne_blockComment (ofSource_grammatical s).code_lastRun rfl h
  · intro h
    rw [if_pos h]

/-! ## What may follow -/

/-- Closed block comments may stand in front of anything that may follow the code behind the last of
them. -/
theorem Parts.partsBefore_of_last {ps : List (BlockComment × Text)} (h : Parts ps) {r : Text}
    (hl : ∀ p, ps.getLast? = some p → p.1.closed = true ∧ Code p.2 r) : PartsBefore r ps := by
  induction h with
  | nil => exact PartsBefore.nil
  | unclosed hb _ => exact absurd (hb.symm.trans (hl _ rfl).1) (by decide)
  | @closed b c ps hb hg hc hp ih =>
    refine PartsBefore.cons hb hg ?_ (ih fun p hps => ?_)
    · rcases hp.text_eq with rfl | ⟨s, hs⟩
      · exact (hl _ rfl).2
      · exact hc.of_head?_eq (by rw [hs]; rfl)
    · cases ps with
      | nil => exact absurd hps (by simp)
      | cons q qs => exact hl p (by rw [List.getLast?_cons_cons, hps])

/-- A reader who stands in code, and not right behind a slash of code, may go on with anything. -/
theorem before_of_standing {s : Text} (h : behind .code s = .code)
    (hs : ¬ ['/'] <:+ (ofSource s).lastRun) (r : Text) : (ofSource s).Before r := by
  have hg := ofSource_grammatical s
  rw [standing_ofSource] at h
  have hopen : (ofSource s).isOpen = false := by
    rw [Bool.eq_false_iff]
    intro ho
    rw [if_pos ho] at h
    exact Standing.noConfusion h
  rw [hopen, if_neg Bool.false_ne_true] at h
  -- the last run of code may stand in front of anything, and what is read before it stays so
  have hrun : Code (ofSource s).lastRun r := Standing.code_of_behind hg.code_lastRun rfl h hs r
  generalize ofSource s = l at hg hopen hrun
  rw [lastRun] at hrun
  rw [isOpen] at hopen
  have hparts : PartsBefore r l.parts := by
    refine hg.parts.partsBefore_of_last fun p hp => ?_
    rw [hp] at hopen hrun
    exact ⟨by simpa using hopen, hrun⟩
  refine ⟨?_, hparts⟩
  rcases hg.parts.text_eq with hn | ⟨w, hw⟩
  · rw [hn] at hrun ⊢
    exact hrun
  · exact hg.lead.of_head?_eq (by rw [hw]; rfl)

end Layout

end Docblock
