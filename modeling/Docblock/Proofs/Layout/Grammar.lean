/-
# Docblock.Proofs.Layout.Grammar — which layout a source has.

A layout is written down by putting its parts one behind the other.  The grammar says which layouts
a writer could have meant: runs of code made of ordinary characters and line comments, and block
comments whose bodies hold no closing marker.  Whether a slash is ordinary depends on the character
behind it, which may stand behind the run, so the grammar of a run looks at the rest of the source
too.  Main statement: of all layouts of the grammar exactly one is written like a given source, and
it is the one that the library reads (`ofSource_eq_iff`).
-/
import Docblock.Layout
import Docblock.Proofs.Text.Cutting

namespace Docblock

namespace BlockComment

/-- The block comment as it stands in a source. -/
def text (b : BlockComment) : Text :=
  '/' :: '*' :: ((if b.marked then ['!'] else []) ++
    (b.body ++ if b.closed then ['*', '/'] else []))

@[simp] theorem length_text (b : BlockComment) : b.text.length = b.length := by
  unfold text length markLength
  split_ifs <;> simp <;> omega

/-- A body that the comment can have: no closing marker stands in it, and an exclamation mark behind
the opening marker would not have been left to it. -/
structure Grammatical (b : BlockComment) : Prop where
  not_closing : ¬ ['*', '/'] <:+: b.body
  mark_taken : b.marked = false → ¬ ['!'] <+: b.body

end BlockComment

namespace Layout

/-! ## The grammar -/

/-- Whether a line comment or a block comment begins at the front of a text. -/
def BeginsComment (s : Text) : Prop := ['/', '/'] <+: s ∨ ['/', '*'] <+: s

/-- Whether a text is at the end of a line. -/
def EndsLine (s : Text) : Prop := s = [] ∨ ['\n'] <+: s

/-- `Code c r` says that `c` is a run of code when `r` follows it: ordinary characters, at which no
comment begins, and line comments, which go on to the end of their line. -/
inductive Code : Text → Text → Prop
  | nil (r : Text) : Code [] r
  | ordinary {x : Char} {c r : Text} :
      ¬ BeginsComment (x :: (c ++ r)) → Code c r → Code (x :: c) r
  | lineComment {t c r : Text} :
      '\n' ∉ t → EndsLine (c ++ r) → Code c r → Code ('/' :: '/' :: (t ++ c)) r

/-- Block comments and the code behind each, as they stand in a source. -/
def partsText (ps : List (BlockComment × Text)) : Text := ps.flatMap fun p => p.1.text ++ p.2

/-- Block comments with runs of code behind them; only the last one may be left open, and nothing
follows it then. -/
inductive Parts : List (BlockComment × Text) → Prop
  | nil : Parts []
  | closed {b : BlockComment} {c : Text} {ps : List (BlockComment × Text)} :
      b.closed = true → b.Grammatical → Code c (partsText ps) → Parts ps → Parts ((b, c) :: ps)
  | unclosed {b : BlockComment} : b.closed = false → b.Grammatical → Parts [(b, [])]

/-- The source that is written like the layout. -/
def text (l : Layout) : Text := l.lead ++ partsText l.parts

/-- The layouts of the grammar. -/
structure Grammatical (l : Layout) : Prop where
  lead : Code l.lead (partsText l.parts)
  parts : Parts l.parts

@[simp] theorem partsText_nil : partsText [] = [] := rfl

@[simp] theorem partsText_cons (b : BlockComment) (c : Text) (ps : List (BlockComment × Text)) :
    partsText ((b, c) :: ps) = b.text ++ c ++ partsText ps := rfl

@[simp] theorem partsText_append (ps qs : List (BlockComment × Text)) :
    partsText (ps ++ qs) = partsText ps ++ partsText qs := List.flatMap_append

/-! ## Runs of code -/

/-- What stands behind a run of code: nothing, or an opening marker and the rest. -/
def opening : Option Text → Text
  | none => []
  | some r => '/' :: '*' :: r

theorem codeRun_of_ordinary {x : Char} {s : Text} (h : ¬ BeginsComment (x :: s)) :
    codeRun false (x :: s) = Text.push x (codeRun false s) := by
  rw [codeRun]
  · rintro r rfl rfl
    exact h (Or.inr ⟨r, rfl⟩)
  · rintro r rfl rfl
    exact h (Or.inl ⟨r, rfl⟩)

/-- In a line comment everything before the line feed is code. -/
theorem codeRun_append_of_inLine {t : Text} (h : '\n' ∉ t) (s : Text) :
    codeRun true (t ++ s) = (t ++ (codeRun true s).1, (codeRun true s).2) := by
  induction t with
  | nil => rfl
  | cons x t ih =>
    have hx : (x != '\n') = true := bne_iff_ne.mpr (List.ne_of_not_mem_cons h).symm
    rw [List.cons_append, codeRun, hx, ih (List.not_mem_of_not_mem_cons h)]
    rfl

theorem not_beginsComment_newline (s : Text) : ¬ BeginsComment ('\n' :: s) := by
  rintro (⟨r, h⟩ | ⟨r, h⟩) <;> exact absurd (List.cons.inj h).1 (by decide)

/-- At the end of a line it makes no difference whether a line comment has begun. -/
theorem codeRun_of_endsLine {s : Text} (h : EndsLine s) : codeRun true s = codeRun false s := by
  rcases h with rfl | ⟨s, rfl⟩
  · rfl
  · rw [List.singleton_append, codeRun_of_ordinary (not_beginsComment_newline s), codeRun]
    rfl

theorem codeRun_text (b : Bool) (s : Text) :
    (codeRun b s).1 ++ opening (codeRun b s).2 = s := by
  fun_induction codeRun b s <;> simp_all [Text.push, opening]

/-- What is read is a run of code; within a line comment it is one behind the rest of that line. -/
theorem codeRun_code (b : Bool) (s : Text) :
    (b = false → Code (codeRun b s).1 (opening (codeRun b s).2)) ∧
      (b = true → ∃ t c, (codeRun b s).1 = t ++ c ∧ '\n' ∉ t ∧
        EndsLine (c ++ opening (codeRun b s).2) ∧ Code c (opening (codeRun b s).2)) := by
  fun_induction codeRun b s with
  | case1 b =>
    refine ⟨fun _ => Code.nil [], fun _ => ⟨[], [], rfl, List.not_mem_nil, ?_, Code.nil []⟩⟩
    exact Or.inl rfl
  | case2 x s ih =>
    refine ⟨fun h => absurd h (by decide), fun _ => ?_⟩
    by_cases hx : x = '\n'
    · subst hx
      have hc := ih.1 (by decide)
      refine ⟨[], '\n' :: (codeRun ('\n' != '\n') s).1, rfl, List.not_mem_nil, ?_, ?_⟩
      · exact Or.inr ⟨_, rfl⟩
      · exact Code.ordinary (not_beginsComment_newline _) hc
    · obtain ⟨t, c, hs, ht, he, hc⟩ := ih.2 (bne_iff_ne.mpr hx)
      refine ⟨x :: t, c, ?_, ?_, he, hc⟩
      · rw [Text.push, hs, List.cons_append]
      · exact List.not_mem_cons_of_ne_of_not_mem (Ne.symm hx) ht
  | case3 r => exact ⟨fun _ => Code.nil _, fun h => absurd h (by decide)⟩
  | case4 r ih =>
    refine ⟨fun _ => ?_, fun h => absurd h (by decide)⟩
    obtain ⟨t, c, hs, ht, he, hc⟩ := ih.2 rfl
    simp only [Text.push, hs]
    exact Code.lineComment ht he hc
  | case5 x s hb hl ih =>
    refine ⟨fun _ => ?_, fun h => absurd h (by decide)⟩
    refine Code.ordinary ?_ (ih.1 rfl)
    show ¬ BeginsComment (x :: ((codeRun false s).1 ++ opening (codeRun false s).2))
    rw [codeRun_text]
    rintro (⟨r, h⟩ | ⟨r, h⟩)
    · exact hl r (List.cons.inj h).1.symm (List.cons.inj h).2.symm
    · exact hb r (List.cons.inj h).1.symm (List.cons.inj h).2.symm

/-- A run of code is read up to the marker or the end behind it. -/
theorem codeRun_of_code {c r : Text} (h : Code c r) {o : Option Text} (ho : r = opening o) :
    codeRun false (c ++ r) = (c, o) := by
  induction h with
  | nil r =>
    subst ho
    cases o <;> rfl
  | ordinary hx _ ih =>
    rw [List.cons_append, codeRun_of_ordinary hx, ih ho]
    rfl
  | @lineComment t c r ht he _ ih =>
    have hl : codeRun true (t ++ (c ++ r)) = (t ++ c, o) := by
      rw [codeRun_append_of_inLine ht, codeRun_of_endsLine he, ih ho]
    rw [List.cons_append, List.cons_append, List.append_assoc, codeRun, hl]
    rfl

theorem codeRun_eq_iff {s c : Text} {o : Option Text} :
    codeRun false s = (c, o) ↔ s = c ++ opening o ∧ Code c (opening o) := by
  constructor
  · intro h
    have ht := codeRun_text false s
    have hc := (codeRun_code false s).1 rfl
    rw [h] at ht hc
    exact ⟨ht.symm, hc⟩
  · rintro ⟨rfl, hc⟩
    exact codeRun_of_code hc rfl

/-- A text in which no block comment could open is code to its end. -/
theorem code_of_not_opening {s : Text} (h : ¬ ['/', '*'] <:+: s) : Code s [] := by
  cases hs : codeRun false s with
  | mk c o =>
    obtain ⟨rfl, hc⟩ := codeRun_eq_iff.mp hs
    cases o with
    | none => simpa [opening] using hc
    | some r => exact absurd ⟨c, r, by simp [opening]⟩ h

/-! ## Block comments -/

/-- The exclamation mark is taken off when it is there, and the rest does not begin with one that
was left. -/
theorem mark_eq_iff {s t : Text} {m : Bool} :
    mark s = (m, t) ↔ s = (if m then ['!'] else []) ++ t ∧ (m = false → ¬ ['!'] <+: t) := by
  unfold mark
  split
  · constructor
    · rintro ⟨rfl, rfl⟩
      exact ⟨rfl, fun h => absurd h (by decide)⟩
    · rintro ⟨h, hn⟩
      cases m with
      | true => simp_all
      | false => exact absurd ⟨_, by simpa using h⟩ (hn rfl)
  · next hs =>
    constructor
    · rintro ⟨rfl, rfl⟩
      exact ⟨rfl, fun _ ⟨r, h⟩ => hs r h.symm⟩
    · rintro ⟨rfl, -⟩
      cases m with
      | true => exact absurd rfl (hs t)
      | false => rfl

/-- The body begins right behind the mark, whatever follows the body. -/
theorem mark_append {b : BlockComment} (h : b.Grammatical) {r : Text} (hr : ¬ ['!'] <+: r) :
    mark ((if b.marked then ['!'] else []) ++ (b.body ++ r)) = (b.marked, b.body ++ r) := by
  refine mark_eq_iff.mpr ⟨rfl, fun hm hp => ?_⟩
  cases hb : b.body with
  | nil => exact hr (by simpa [hb] using hp)
  | cons x body => exact h.mark_taken hm (by simpa [hb] using hp)

theorem partsFrom_of_unclosed {s t body : Text} {m : Bool} (hm : mark s = (m, t))
    (h : Text.cut ['*', '/'] t = (body, none)) : partsFrom s = [(⟨m, body, false⟩, [])] := by
  rw [partsFrom]
  split <;> simp_all

theorem partsFrom_of_closed {s t body r c : Text} {m : Bool} {o : Option Text}
    (hm : mark s = (m, t)) (h : Text.cut ['*', '/'] t = (body, some r))
    (hr : codeRun false r = (c, o)) :
    partsFrom s = (⟨m, body, true⟩, c) :: (o.map partsFrom).getD [] := by
  rw [partsFrom]
  split
  · simp_all
  · next hc =>
    obtain ⟨rfl, hr'⟩ := Prod.mk.inj (h.symm.trans (by simpa [hm] using hc))
    obtain rfl := Option.some.inj hr'
    split <;> cases o <;> simp_all

/-- Block comments of the grammar open at the front. -/
theorem Parts.text_eq {ps : List (BlockComment × Text)} (h : Parts ps) :
    ps = [] ∨ ∃ s, partsText ps = '/' :: '*' :: s := by
  cases h with
  | nil => exact Or.inl rfl
  | closed => exact Or.inr ⟨_, rfl⟩
  | unclosed => exact Or.inr ⟨_, rfl⟩

/-- Block comments of the grammar are the ones that are read. -/
theorem partsFrom_of_parts {ps : List (BlockComment × Text)} (h : Parts ps) {s : Text}
    (hs : partsText ps = '/' :: '*' :: s) : partsFrom s = ps := by
  induction h generalizing s with
  | nil => exact absurd hs.symm (List.cons_ne_nil _ _)
  | @unclosed b hb hg =>
    have hm : mark s = (b.marked, b.body) := by
      have := mark_append hg (r := []) (by simp)
      simp_all [BlockComment.text]
    rw [partsFrom_of_unclosed hm (Text.cut_of_not_infix hg.not_closing), ← hb]
  | @closed b c ps hb hg hc hps ih =>
    have hm : mark s = (b.marked, b.body ++ '*' :: '/' :: (c ++ partsText ps)) := by
      have := mark_append hg (r := '*' :: '/' :: (c ++ partsText ps)) (by simp)
      simp_all [BlockComment.text]
    have hcut := Text.cut_pair (by decide) hg.not_closing (c ++ partsText ps)
    rcases hps.text_eq with rfl | ⟨s', hs'⟩
    · rw [partsFrom_of_closed hm hcut (codeRun_of_code hc (o := none) rfl), ← hb]
      rfl
    · rw [partsFrom_of_closed hm hcut (codeRun_of_code hc (o := some s') hs'), ← hb]
      simp [ih hs']

/-- What is read behind an opening marker is of the grammar and written as it stands. -/
theorem partsFrom_parts (s : Text) :
    Parts (partsFrom s) ∧ partsText (partsFrom s) = '/' :: '*' :: s := by
  cases hmark : mark s with
  | mk m t =>
    obtain ⟨hs, hm⟩ := mark_eq_iff.mp hmark
    have hne : ['*', '/'] ≠ ([] : Text) := List.cons_ne_nil _ _
    cases hcut : Text.cut ['*', '/'] t with
    | mk body rest =>
      cases rest with
      | none =>
        obtain ⟨rfl, hn⟩ := (Text.cut_eq_none_iff hne).mp hcut
        rw [partsFrom_of_unclosed hmark hcut]
        refine ⟨Parts.unclosed rfl ⟨hn, hm⟩, ?_⟩
        simp [BlockComment.text, hs]
      | some r =>
        obtain ⟨rfl, hclear⟩ := (Text.cut_eq_some_iff hne).mp hcut
        have hg : BlockComment.Grammatical ⟨m, body, true⟩ :=
          ⟨hclear.not_infix, fun h hp => hm h (hp.trans (List.prefix_append body _))⟩
        cases hr : codeRun false r with
        | mk c o =>
          obtain ⟨rfl, hcode⟩ := codeRun_eq_iff.mp hr
          rw [partsFrom_of_closed hmark hcut hr]
          cases o with
          | none =>
            refine ⟨Parts.closed rfl hg hcode Parts.nil, ?_⟩
            simp [BlockComment.text, opening, hs]
          | some s' =>
            have : s'.length < s.length := by
              rw [hs]
              simp only [List.length_append, List.length_cons, opening]
              omega
            obtain ⟨hp, htext⟩ := partsFrom_parts s'
            refine ⟨Parts.closed rfl hg (htext ▸ hcode) hp, ?_⟩
            simp [BlockComment.text, opening, htext, hs]
termination_by s.length

/-! ## Whole sources -/

theorem ofSource_eq {s lead : Text} {o : Option Text} (h : codeRun false s = (lead, o)) :
    ofSource s = ⟨lead, (o.map partsFrom).getD []⟩ := by
  rw [ofSource, h]
  cases o <;> rfl

/-- The layout of a source is the only one of the grammar that is written like the source. -/
theorem ofSource_eq_iff {s : Text} {l : Layout} :
    ofSource s = l ↔ l.Grammatical ∧ l.text = s := by
  constructor
  · rintro rfl
    cases hs : codeRun false s with
    | mk lead o =>
      obtain ⟨rfl, hc⟩ := codeRun_eq_iff.mp hs
      rw [ofSource_eq hs]
      cases o with
      | none => exact ⟨⟨hc, Parts.nil⟩, rfl⟩
      | some r =>
        obtain ⟨hp, htext⟩ := partsFrom_parts r
        exact ⟨⟨htext ▸ hc, hp⟩, congrArg (lead ++ ·) htext⟩
  · rintro ⟨⟨hc, hp⟩, rfl⟩
    rcases hp.text_eq with hn | ⟨s, hs⟩
    · rw [text, ofSource_eq (codeRun_of_code hc (o := none) (by rw [hn]; rfl))]
      exact congrArg (Layout.mk l.lead) hn.symm
    · rw [text, ofSource_eq (codeRun_of_code hc (o := some s) hs)]
      exact congrArg (Layout.mk l.lead) (partsFrom_of_parts hp hs)

theorem ofSource_grammatical (s : Text) : (ofSource s).Grammatical :=
  (ofSource_eq_iff.mp rfl).1

@[simp] theorem text_ofSource (s : Text) : (ofSource s).text = s :=
  (ofSource_eq_iff.mp rfl).2

end Layout

end Docblock
