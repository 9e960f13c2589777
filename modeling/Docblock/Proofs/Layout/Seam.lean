/-
# Docblock.Proofs.Layout.Seam — reading a source in two parts.

A source can be cut wherever a reader stands outside every comment: what has been read and what
follows are taken apart independently, and the two layouts are put together by joining the last run
of the one to the first run of the other (`ofSource_append`).  `l.Before r` says that a reader who
has met the parts of `l` stands so when `r` follows.  Of what follows only the first character
matters: a slash in front of it could begin a comment with it, and a line comment in front of it
would have to end.
-/
import Docblock.Proofs.Layout.Grammar

namespace Docblock

namespace Layout

/-! ## Runs of code at a seam -/

theorem beginsComment_cons_iff {x : Char} {s : Text} :
    BeginsComment (x :: s) ↔ x = '/' ∧ (s.head? = some '/' ∨ s.head? = some '*') := by
  unfold BeginsComment
  cases s with
  | nil => simp [List.cons_prefix_cons]
  | cons y s => simp [List.cons_prefix_cons, eq_comm, and_or_left]

theorem endsLine_iff {s : Text} : EndsLine s ↔ s.head? = none ∨ s.head? = some '\n' := by
  unfold EndsLine
  cases s with
  | nil => simp
  | cons y s => simp [List.cons_prefix_cons, eq_comm]

/-- Only the first character of what follows a run of code matters to it. -/
theorem Code.of_head?_eq {c r r' : Text} (h : Code c r) (hr : r'.head? = r.head?) : Code c r' := by
  have hhead : ∀ d : Text, (d ++ r').head? = (d ++ r).head? := by
    intro d
    rw [List.head?_append, List.head?_append, hr]
  induction h with
  | nil r => exact Code.nil r'
  | ordinary hx _ ih =>
    refine Code.ordinary ?_ (ih hr hhead)
    rwa [beginsComment_cons_iff, hhead, ← beginsComment_cons_iff]
  | lineComment ht he _ ih =>
    refine Code.lineComment ht ?_ (ih hr hhead)
    rwa [endsLine_iff, hhead, ← endsLine_iff]

/-- Two runs of code that follow one another are a run. -/
theorem Code.append {c d r : Text} (hc : Code c (d ++ r)) (hd : Code d r) : Code (c ++ d) r := by
  generalize hs : d ++ r = s at hc
  induction hc with
  | nil _ => exact hd
  | ordinary hx _ ih =>
    rw [List.cons_append]
    refine Code.ordinary ?_ (ih hs)
    rwa [List.append_assoc, hs]
  | @lineComment t c _ ht he _ ih =>
    have hrun : Code ('/' :: '/' :: (t ++ (c ++ d))) r := by
      refine Code.lineComment ht ?_ (ih hs)
      rwa [List.append_assoc, hs]
    simpa using hrun

/-- Behind a line feed a run of code may end whatever follows. -/
theorem Code.of_newline_suffix {c r : Text} (h : Code c r) (hc : ['\n'] <:+ c) (r' : Text) :
    Code c r' := by
  have hhead : ∀ {d s s' : Text}, d ≠ [] → (d ++ s).head? = (d ++ s').head? := by
    intro d s s' hd
    obtain ⟨x, d, rfl⟩ := List.exists_cons_of_ne_nil hd
    rfl
  induction h with
  | nil r => exact Code.nil r'
  | @ordinary x c r hx _ ih =>
    -- the line feed is this character, or it still comes and hides what follows the run
    by_cases hn : c = []
    · subst hn
      obtain rfl : '\n' = x := by simpa using List.IsSuffix.eq_of_length hc rfl
      exact Code.ordinary (not_beginsComment_newline _) (Code.nil r')
    · refine Code.ordinary ?_ (ih ((List.suffix_cons_iff.mp hc).resolve_left fun he => ?_))
      · rwa [beginsComment_cons_iff, hhead hn, ← beginsComment_cons_iff]
      · exact hn (List.cons.inj he).2.symm
  | @lineComment t c r ht he _ ih =>
    -- no line feed stands in the comment, so the run cannot end with it
    have hn : c ≠ [] := by
      rintro rfl
      have hm : '\n' ∈ '/' :: '/' :: (t ++ []) := hc.subset List.mem_cons_self
      simp [ht] at hm
    have hc' : ['\n'] <:+ c := by
      rcases List.suffix_or_suffix_of_suffix hc
        (List.suffix_append ('/' :: '/' :: t) c) with h | h
      · exact h
      · rcases List.suffix_cons_iff.mp h with h | h
        · exact h ▸ List.suffix_rfl
        · exact absurd (List.suffix_nil.mp h) hn
    refine Code.lineComment ht ?_ (ih hc')
    rwa [endsLine_iff, hhead hn, ← endsLine_iff]

/-- A run of code is one, too, when less follows it. -/
theorem Code.of_prefix {c r s : Text} (h : Code c s) (hr : r <+: s) : Code c r := by
  induction h with
  | nil s => exact Code.nil r
  | @ordinary x c s hx _ ih =>
    refine Code.ordinary (fun hb => hx ?_) (ih hr)
    have hp : x :: (c ++ r) <+: x :: (c ++ s) := by simpa using hr
    exact hb.imp (·.trans hp) (·.trans hp)
  | @lineComment t c s ht he _ ih =>
    refine Code.lineComment ht ?_ (ih hr)
    have hp : c ++ r <+: c ++ s := by simpa using hr
    rw [endsLine_iff]
    rcases endsLine_iff.mp he with hn | hn
    · rw [List.head?_eq_none_iff] at hn
      rw [hn, List.prefix_nil] at hp
      exact Or.inl (List.head?_eq_none_iff.mpr hp)
    · cases hcr : c ++ r with
      | nil => exact Or.inl rfl
      | cons y w =>
        obtain ⟨z, hz⟩ := hcr ▸ hp
        rw [← hz] at hn
        exact Or.inr hn

/-! ## Layouts in front of a text -/

/-- Closed block comments with runs of code behind them, in front of the text `r`, which is met
outside every comment. -/
inductive PartsBefore (r : Text) : List (BlockComment × Text) → Prop
  | nil : PartsBefore r []
  | cons {b : BlockComment} {c : Text} {ps : List (BlockComment × Text)} :
      b.closed = true → b.Grammatical → Code c (partsText ps ++ r) → PartsBefore r ps →
      PartsBefore r ((b, c) :: ps)

/-- The layout of what stands in front of the text `r`, which is met outside every comment. -/
structure Before (l : Layout) (r : Text) : Prop where
  lead : Code l.lead (partsText l.parts ++ r)
  parts : PartsBefore r l.parts

theorem PartsBefore.of_head?_eq {r r' : Text} {ps : List (BlockComment × Text)}
    (h : PartsBefore r ps) (hr : r'.head? = r.head?) : PartsBefore r' ps := by
  induction h with
  | nil => exact PartsBefore.nil
  | cons hb hg hc _ ih =>
    refine PartsBefore.cons hb hg (hc.of_head?_eq ?_) ih
    rw [List.head?_append, List.head?_append, hr]

theorem Before.of_head?_eq {l : Layout} {r r' : Text} (h : l.Before r) (hr : r'.head? = r.head?) :
    l.Before r' where
  lead := h.lead.of_head?_eq (by rw [List.head?_append, List.head?_append, hr])
  parts := h.parts.of_head?_eq hr

theorem PartsBefore.parts {r : Text} {ps : List (BlockComment × Text)} (h : PartsBefore r ps) :
    Parts ps := by
  induction h with
  | nil => exact Parts.nil
  | cons hb hg hc _ ih => exact Parts.closed hb hg (hc.of_prefix (List.prefix_append _ _)) ih

/-- What stands in front of a text that is met outside every comment is read as it was meant. -/
theorem Before.ofSource_text {l : Layout} {r : Text} (h : l.Before r) : ofSource l.text = l :=
  ofSource_eq_iff.mpr ⟨⟨h.lead.of_prefix (List.prefix_append _ _), h.parts.parts⟩, rfl⟩

theorem Parts.partsBefore {ps qs : List (BlockComment × Text)} (h : Parts (ps ++ qs))
    (hq : qs ≠ []) : PartsBefore (partsText qs) ps ∧ Parts qs := by
  induction ps with
  | nil => exact ⟨PartsBefore.nil, h⟩
  | cons p ps ih =>
    rw [List.cons_append] at h
    generalize hs : p :: (ps ++ qs) = s at h
    cases h with
    | nil => exact absurd hs (List.cons_ne_nil _ _)
    | @closed b c ts hb hg hc hp =>
      obtain ⟨rfl, rfl⟩ := List.cons.inj hs
      rw [partsText_append] at hc
      exact ⟨PartsBefore.cons hb hg hc (ih hp).1, (ih hp).2⟩
    | unclosed =>
      -- an open comment takes all that is left, so no part stands behind it
      obtain ⟨-, hn⟩ := List.cons.inj hs
      exact absurd (List.append_eq_nil_iff.mp hn).2 hq

theorem Parts.grammatical_of_mem {ps : List (BlockComment × Text)} (h : Parts ps)
    {p : BlockComment × Text} (hp : p ∈ ps) : p.1.Grammatical := by
  induction h with
  | nil => exact absurd hp List.not_mem_nil
  | closed _ hg _ _ ih =>
    rcases List.mem_cons.mp hp with rfl | hp
    · exact hg
    · exact ih hp
  | unclosed _ hg =>
    rw [List.mem_singleton.mp hp]
    exact hg

/-- In front of each block comment of a source a reader stands outside every comment. -/
theorem Grammatical.before {l : Layout} (h : l.Grammatical) {ps qs : List (BlockComment × Text)}
    (hl : l.parts = ps ++ qs) (hq : qs ≠ []) :
    (Layout.mk l.lead ps).Before (partsText qs) ∧ (Layout.mk [] qs).Grammatical := by
  have hp := h.parts
  rw [hl] at hp
  obtain ⟨hps, hqs⟩ := hp.partsBefore hq
  refine ⟨⟨?_, hps⟩, Code.nil _, hqs⟩
  rw [← partsText_append, ← hl]
  exact h.lead

/-! ## Joined layouts -/

/-- A run of code and the block comments behind it, joined to the layout of what follows. -/
def joinFrom (m : Layout) : Text → List (BlockComment × Text) → Layout
  | c, [] => ⟨c ++ m.lead, m.parts⟩
  | c, (b, d) :: ps => ⟨c, (b, (joinFrom m d ps).lead) :: (joinFrom m d ps).parts⟩

/-- The layout of a text in front of another one, joined to the layout of that one. -/
def append (l m : Layout) : Layout := joinFrom m l.lead l.parts

theorem text_joinFrom (m : Layout) (c : Text) (ps : List (BlockComment × Text)) :
    (joinFrom m c ps).text = c ++ partsText ps ++ m.text := by
  induction ps generalizing c with
  | nil => simp [joinFrom, text]
  | cons p ps ih =>
    obtain ⟨b, d⟩ := p
    have := ih d
    rw [text] at this
    rw [joinFrom, text, partsText_cons, List.append_assoc b.text, this, partsText_cons]
    simp only [List.append_assoc]

@[simp] theorem text_append (l m : Layout) : (l.append m).text = l.text ++ m.text :=
  text_joinFrom m l.lead l.parts

theorem grammatical_joinFrom {m : Layout} (hm : m.Grammatical) {c : Text}
    {ps : List (BlockComment × Text)} (hc : Code c (partsText ps ++ m.text))
    (hp : PartsBefore m.text ps) : (joinFrom m c ps).Grammatical := by
  induction hp generalizing c with
  | nil =>
    have hc : Code c (m.lead ++ partsText m.parts) := hc
    exact ⟨hc.append hm.lead, hm.parts⟩
  | @cons b d ps hb hg hd _ ih =>
    have ht : partsText ((b, (joinFrom m d ps).lead) :: (joinFrom m d ps).parts) =
        partsText ((b, d) :: ps) ++ m.text := by
      have := text_joinFrom m d ps
      rw [text] at this
      rw [partsText_cons, List.append_assoc, this, partsText_cons]
      simp only [List.append_assoc]
    refine ⟨?_, Parts.closed hb hg (ih hd).lead (ih hd).parts⟩
    show Code c (partsText (_ :: _))
    rwa [ht]

/-- A source is read in two parts where a reader stands outside every comment. -/
theorem ofSource_append {l : Layout} {r : Text} (h : l.Before r) :
    ofSource (l.text ++ r) = l.append (ofSource r) := by
  refine ofSource_eq_iff.mpr ⟨grammatical_joinFrom (ofSource_grammatical r) ?_ ?_, ?_⟩
  · rw [text_ofSource]
    exact h.lead
  · rw [text_ofSource]
    exact h.parts
  · rw [text_append, text_ofSource]

theorem append_of_lead_eq_nil {m : Layout} (hm : m.lead = []) (l : Layout) :
    l.append m = ⟨l.lead, l.parts ++ m.parts⟩ := by
  have key : ∀ (c : Text) (ps : List (BlockComment × Text)),
      joinFrom m c ps = ⟨c, ps ++ m.parts⟩ := by
    intro c ps
    induction ps generalizing c with
    | nil => rw [joinFrom, hm, List.append_nil, List.nil_append]
    | cons p ps ih => rw [joinFrom, ih, List.cons_append]
  exact key l.lead l.parts

theorem append_of_parts_eq_nil {l : Layout} (hl : l.parts = []) (m : Layout) :
    l.append m = ⟨l.lead ++ m.lead, m.parts⟩ := by
  rw [append, hl, joinFrom]

/-- The code of the layout behind goes to the last run of the one in front. -/
theorem append_of_parts_eq_concat {l : Layout} {ps : List (BlockComment × Text)} {b : BlockComment}
    {c : Text} (hl : l.parts = ps ++ [(b, c)]) (m : Layout) :
    l.append m = ⟨l.lead, ps ++ (b, c ++ m.lead) :: m.parts⟩ := by
  have key : ∀ (d : Text) (ps : List (BlockComment × Text)),
      joinFrom m d (ps ++ [(b, c)]) = ⟨d, ps ++ (b, c ++ m.lead) :: m.parts⟩ := by
    intro d ps
    induction ps generalizing d with
    | nil => rfl
    | cons p ps ih => rw [List.cons_append, joinFrom, ih, List.cons_append]
  rw [append, hl, key]

end Layout

end Docblock
