/-
# Docblock.Proofs.Scan.Replacement — other text in one comment.

Two sources that differ in the text of one comment are read alike around it: the layouts have the
same parts, and all places behind the comment move by one amount.  What is left is the blocks.  A
line comment never begins a line of its own text, so its text cannot make or break a block
(`comments_lineComment`).  The body of a block comment can: blocks are looked for on all lines of a
source, those within comments too.  Main statement on bodies: another body changes the owners of
members in shorthand at most, and not even these when the lines that begin in the two bodies bear
the same marks of blocks (`comments_blockComment`).
-/
import Docblock.Proofs.Scan.Surroundings
import Docblock.Proofs.Scan.Written

namespace Docblock

namespace Layout

/-! ## Comments that are met -/

/-- Behind `u` a reader outside every comment meets a line comment with the text `t`; `v` stands
behind it. -/
structure MeetsLine (u t v : Text) : Prop where
  before : (ofSource u).Before ('/' :: '/' :: (t ++ v))
  not_newline : '\n' ∉ t
  endsLine : EndsLine v

/-- Behind `u` a reader outside every comment meets a block comment that is not set apart, with the
body `body`; `v` stands behind it. -/
structure MeetsBlock (u body v : Text) : Prop where
  before : (ofSource u).Before ('/' :: '*' :: (body ++ '*' :: '/' :: v))
  grammatical : (BlockComment.mk false body true).Grammatical

section

variable {u v : Text}

theorem MeetsLine.replace {t t' : Text} (h : MeetsLine u t v) (ht : '\n' ∉ t') :
    MeetsLine u t' v where
  before := h.before.of_head?_eq rfl
  not_newline := ht
  endsLine := h.endsLine

theorem MeetsBlock.replace {body body' : Text} (h : MeetsBlock u body v)
    (hb : (BlockComment.mk false body' true).Grammatical) : MeetsBlock u body' v where
  before := h.before.of_head?_eq rfl
  grammatical := hb

/-- The code behind a line comment goes on with the line comment in front. -/
theorem MeetsLine.ofSource_eq {t : Text} (h : MeetsLine u t v) :
    ofSource (u ++ '/' :: '/' :: (t ++ v)) =
      (ofSource u).append ⟨'/' :: '/' :: (t ++ (ofSource v).lead), (ofSource v).parts⟩ := by
  have hline : (Layout.mk ('/' :: '/' :: t) []).Before v := by
    refine ⟨?_, PartsBefore.nil⟩
    have := Code.lineComment (c := []) h.not_newline h.endsLine (Code.nil v)
    rwa [List.append_nil] at this
  have hrest := ofSource_append hline
  rw [append_of_parts_eq_nil rfl, text, partsText_nil, List.append_nil] at hrest
  have := ofSource_append h.before
  rw [text_ofSource] at this
  rw [this]
  exact congrArg (ofSource u).append hrest

theorem MeetsBlock.ofSource_eq {body : Text} (h : MeetsBlock u body v) :
    ofSource (u ++ '/' :: '*' :: (body ++ '*' :: '/' :: v)) =
      ⟨(ofSource u).lead,
        (ofSource u).parts ++ (⟨false, body, true⟩, (ofSource v).lead) :: (ofSource v).parts⟩ := by
  have hv := ofSource_grammatical v
  have hblock : ofSource ('/' :: '*' :: (body ++ '*' :: '/' :: v)) =
      ⟨[], (⟨false, body, true⟩, (ofSource v).lead) :: (ofSource v).parts⟩ := by
    refine ofSource_eq_iff.mpr ⟨⟨Code.nil _, Parts.closed rfl h.grammatical hv.lead hv.parts⟩, ?_⟩
    have ht := text_ofSource v
    rw [text] at ht
    rw [text, partsText_cons, List.append_assoc, ht]
    simp [BlockComment.text]
  have := ofSource_append h.before
  rw [text_ofSource] at this
  rw [this, hblock, append_of_lead_eq_nil rfl]

end

/-- Every block comment of a source that is closed and not set apart is met, also when the line ends
of the source are not unified. -/
theorem exists_meetsBlock {source body c : Text} {i : Nat}
    (h : (ofSource (unifyNewlines source)).parts[i]? = some (⟨false, body, true⟩, c)) :
    ∃ u b v, source = u ++ '/' :: '*' :: (b ++ '*' :: '/' :: v) ∧ unifyNewlines b = body ∧
      MeetsBlock (unifyNewlines u) (unifyNewlines b) (unifyNewlines v) ∧
      (ofSource (unifyNewlines u)).parts.length = i := by
  have hg := ofSource_grammatical (unifyNewlines source)
  have ht := text_ofSource (unifyNewlines source)
  generalize ofSource (unifyNewlines source) = l at h hg ht
  obtain ⟨hi, hb⟩ := List.getElem?_eq_some_iff.mp h
  have hparts : l.parts = l.parts.take i ++ (⟨false, body, true⟩, c) :: l.parts.drop (i + 1) := by
    rw [← hb, List.cons_getElem_drop_succ, List.take_append_drop]
  obtain ⟨hbefore, -⟩ := hg.before hparts (List.cons_ne_nil _ _)
  have hsource : unifyNewlines source = (Layout.mk l.lead (l.parts.take i)).text ++
      '/' :: '*' :: (body ++ '*' :: '/' :: (c ++ partsText (l.parts.drop (i + 1)))) := by
    rw [← ht, text, text]
    conv_lhs => rw [hparts]
    simp [BlockComment.text]
  -- none of the four characters is a line feed, so each is found again in the source itself
  obtain ⟨u, s₁, rfl, hu, h₁⟩ :=
    exists_of_unifyNewlines_eq_append_cons (c := '/') (by decide) hsource
  obtain ⟨s₂, rfl, h₂⟩ := exists_of_unifyNewlines_eq_cons (c := '*') (by decide) h₁
  obtain ⟨b, s₃, rfl, hbody, h₃⟩ :=
    exists_of_unifyNewlines_eq_append_cons (c := '*') (by decide) h₂
  obtain ⟨v, rfl, -⟩ := exists_of_unifyNewlines_eq_cons (c := '/') (by decide) h₃
  have hlayout : ofSource (unifyNewlines u) = ⟨l.lead, l.parts.take i⟩ := by
    rw [hu]
    exact hbefore.ofSource_text
  refine ⟨u, b, v, rfl, hbody, ⟨?_, ?_⟩, ?_⟩
  · rw [hlayout]
    exact hbefore.of_head?_eq rfl
  · rw [hbody]
    exact hg.parts.grammatical_of_mem (List.mem_of_getElem? h)
  · rw [hlayout, List.length_take]
    omega

/-! ## Comments around a run of code -/

theorem comments_of_parts_eq_append {l : Layout} {ps qs : List (BlockComment × Text)}
    {b : BlockComment} {c : Text} (hl : l.parts = ps ++ (b, c) :: qs) (st : Style)
    (blocks : List OwnerBlock) :
    l.comments st blocks =
      commentsFrom st blocks l.lead.length ps ++
        (Comment.ofBlock st b).withCode blocks
            (l.lead.length + (partsText ps).length + b.length) c ::
          commentsFrom st blocks
            (l.lead.length + (partsText ps).length + b.length + c.length) qs := by
  have hne : l.parts ≠ [] := by simp [hl]
  rw [comments_of_parts_ne_nil hne, hl, commentsFrom_append, commentsFrom]

theorem carried_of_parts_eq_append {l : Layout} {ps qs : List (BlockComment × Text)}
    {b : BlockComment} {c : Text} (hl : l.parts = ps ++ (b, c) :: qs) :
    l.carried =
      carriedFrom l.lead.length ps ++
        (l.lead.length + (partsText ps).length + b.length, c) ::
          carriedFrom (l.lead.length + (partsText ps).length + b.length + c.length) qs := by
  have hne : l.parts ≠ [] := by simp [hl]
  rw [carried_eq_carriedFrom hne, hl, carriedFrom_append, carriedFrom]

/-- The last run of code of a layout and the code behind it belong to one comment, unless they stand
in front of the first block comment. -/
theorem exists_comments_append (st : Style) (l : Layout) :
    ∃ (ps : List (BlockComment × Text)) (k : Comment) (place : Nat) (c : Text),
      l.lead.length + (partsText ps).length ≤ l.text.length ∧
      place + c.length = l.text.length ∧ l.text.drop place = c ∧
      ∀ m : Layout, (l.parts = [] → m.parts = []) →
        (l.append m).carried = carriedFrom l.lead.length ps ++
          (place, c ++ m.lead) :: carriedFrom (l.text.length + m.lead.length) m.parts ∧
        ∀ blocks, (l.append m).comments st blocks = commentsFrom st blocks l.lead.length ps ++
          k.withCode blocks place (c ++ m.lead) ::
            commentsFrom st blocks (l.text.length + m.lead.length) m.parts := by
  obtain hl | ⟨ps, ⟨b, c⟩, hl⟩ := l.parts.eq_nil_or_concat
  · have ht : l.text = l.lead := by rw [text, hl, partsText_nil, List.append_nil]
    refine ⟨[], {}, 0, l.lead, ?_, ?_, by rw [ht]; rfl, fun m hm => ?_⟩
    · rw [ht]
      exact Nat.le_refl _
    · rw [ht, Nat.zero_add]
    · rw [append_of_parts_eq_nil hl, hm hl]
      exact ⟨rfl, fun _ => rfl⟩
  · rw [List.concat_eq_append] at hl
    have ht : l.text = (l.lead ++ partsText ps ++ b.text) ++ c := by simp [text, hl]
    have hplace : l.lead.length + (partsText ps).length + b.length =
        (l.lead ++ partsText ps ++ b.text).length := by
      simp only [List.length_append, BlockComment.length_text]
    have hlen := congrArg List.length ht
    rw [List.length_append, ← hplace] at hlen
    refine ⟨ps, .ofBlock st b, l.lead.length + (partsText ps).length + b.length, c,
      by omega, by omega, ?_, fun m _ => ?_⟩
    · rw [hplace, ht, List.drop_left]
    · have hrest : l.lead.length + (partsText ps).length + b.length + (c ++ m.lead).length =
          l.text.length + m.lead.length := by
        rw [List.length_append]
        omega
      rw [append_of_parts_eq_concat hl]
      refine ⟨?_, fun blocks => ?_⟩
      · rw [← hrest]
        exact carried_of_parts_eq_append rfl
      · rw [← hrest]
        exact comments_of_parts_eq_append rfl st blocks

end Layout

namespace Comment

/-- What a comment says, without the code that it carries. -/
def withoutCode (k : Comment) : Comment := { k with code := none, declaration := none }

theorem withoutCode_withCode (k : Comment) (blocks : List OwnerBlock) (place : Nat) (code : Text) :
    (k.withCode blocks place code).withoutCode = k.withoutCode := by
  obtain ⟨c, d, h⟩ := exists_withCode blocks place code k
  rw [h]
  rfl

end Comment

/-- A comment declares the same when the code changes behind its first line. -/
theorem Comment.declaration_withCode_of_newline {c : Text} (h : '\n' ∈ Text.trimStart c) {y : Char}
    (hy : isBlank y = false) {blocks blocks' : List OwnerBlock} {place : Nat}
    (ho : OwnerBlock.ownerAt (place + (c.takeWhile isBlank).length : Nat) blocks =
      OwnerBlock.ownerAt (place + (c.takeWhile isBlank).length : Nat) blocks')
    (k : Comment) (x x' : Text) :
    (k.withCode blocks place (c ++ y :: x)).declaration =
      (k.withCode blocks' place (c ++ y :: x')).declaration := by
  have hblank : ∀ x, Text.blank (c ++ y :: x) = false := by
    intro x
    rw [Bool.eq_false_iff, ne_eq, Text.blank_iff]
    intro hall
    have := hall y (by simp)
    rw [hy] at this
    exact Bool.false_ne_true this
  rw [withCode_of_not_blank _ _ _ (hblank x), withCode_of_not_blank _ _ _ (hblank x'),
    Text.takeWhile_append_cons hy, Text.takeWhile_append_cons hy]
  refine Declaration.ofCode?_congr ?_ ho
  rw [Text.trim_trim, Text.trim_trim, Text.firstLine_trim_append h hy,
    Text.firstLine_trim_append h hy]

theorem getElem?_append_cons_self {α : Type} (as bs : List α) (a : α) :
    (as ++ a :: bs)[as.length]? = some a := by
  rw [List.getElem?_append_right (Nat.le_refl _), Nat.sub_self, List.getElem?_cons_zero]

theorem getElem?_append_cons_of_ne {α : Type} (as bs : List α) (a a' : α) {i : Nat}
    (h : i ≠ as.length) : (as ++ a :: bs)[i]? = (as ++ a' :: bs)[i]? := by
  rcases Nat.lt_or_gt_of_ne h with h | h
  · rw [List.getElem?_append_left h, List.getElem?_append_left h]
  · obtain ⟨e, rfl⟩ := Nat.exists_eq_add_of_lt h
    rw [List.getElem?_append_right (by omega), List.getElem?_append_right (by omega)]
    have he : as.length + e + 1 - as.length = e + 1 := by omega
    rw [he, List.getElem?_cons_succ, List.getElem?_cons_succ]

/-- `SameBut runs q front ks ks'` compares the comments `ks`, which carry `runs`, with `ks'` when
only the run at the place `q` has changed, and this behind the text `front`: all comments say the
same; those that carry other runs are the same; and the one that carries this run declares the
same, unless the change is on the first line of its code. -/
structure SameBut (runs : List (Nat × Text)) (q : Nat) (front : Text) (ks ks' : List Comment) :
    Prop where
  texts : ks'.map Comment.withoutCode = ks.map Comment.withoutCode
  others : ∀ (i place : Nat) (code : Text), runs[i]? = some (place, code) →
    ¬ (place ≤ q ∧ q < place + code.length) → ks'[i]? = ks[i]?
  declares : ∀ (i place : Nat) (code : Text), runs[i]? = some (place, code) →
    place ≤ q → '\n' ∈ Text.trimStart (front.drop place) →
    ks'[i]?.map Comment.declaration = ks[i]?.map Comment.declaration

namespace SameBut

variable {q : Nat} {front : Text}

theorem refl (runs : List (Nat × Text)) (ks : List Comment) : SameBut runs q front ks ks where
  texts := rfl
  others _ _ _ _ _ := rfl
  declares _ _ _ _ _ _ := rfl

/-- It is enough to compare the comment that carries the run. -/
theorem of_append_cons {rs rs' : List (Nat × Text)} {place : Nat} {code : Text}
    {as bs : List Comment} {k k' : Comment} (hlen : rs.length = as.length)
    (hq : place ≤ q ∧ q < place + code.length) (htexts : k'.withoutCode = k.withoutCode)
    (hdeclares : '\n' ∈ Text.trimStart (front.drop place) → k'.declaration = k.declaration) :
    SameBut (rs ++ (place, code) :: rs') q front (as ++ k :: bs) (as ++ k' :: bs) where
  texts := by
    rw [List.map_append, List.map_append, List.map_cons, List.map_cons, htexts]
  others i n c hr hn := by
    refine getElem?_append_cons_of_ne as bs k' k fun hi => ?_
    rw [hi, ← hlen, getElem?_append_cons_self] at hr
    obtain ⟨rfl, rfl⟩ := Prod.mk.inj (Option.some.inj hr)
    exact hn hq
  declares i n c hr _ hl := by
    by_cases hi : i = as.length
    · rw [hi, ← hlen, getElem?_append_cons_self] at hr
      obtain ⟨rfl, rfl⟩ := Prod.mk.inj (Option.some.inj hr)
      rw [hi, getElem?_append_cons_self, getElem?_append_cons_self]
      exact congrArg some (hdeclares hl)
    · exact congrArg _ (getElem?_append_cons_of_ne as bs k' k hi)

end SameBut

namespace Layout

/-- Two texts behind one layout that differ in the code in front of their first block comment give
the same comments, apart from the code of the comment that carries this code. -/
theorem sameBut_comments_append (st : Style) (l : Layout) (ps : List (BlockComment × Text))
    {y : Char} (hy : isBlank y = false) (x x' : Text) (blocks blocks' : List OwnerBlock)
    (hfront : ∀ p ≤ l.text.length,
      OwnerBlock.ownerAt p blocks = OwnerBlock.ownerAt p blocks')
    (hback : ∀ e : Nat,
      OwnerBlock.ownerAt (l.text.length + (y :: x).length + e : Nat) blocks =
        OwnerBlock.ownerAt (l.text.length + (y :: x').length + e : Nat) blocks') :
    SameBut (l.append ⟨y :: x, ps⟩).carried l.text.length l.text
      ((l.append ⟨y :: x, ps⟩).comments st blocks)
      ((l.append ⟨y :: x', ps⟩).comments st blocks') := by
  have hrest : commentsFrom st blocks' (l.text.length + (y :: x').length) ps =
      commentsFrom st blocks (l.text.length + (y :: x).length) ps :=
    commentsFrom_congr st fun e _ => (hback e).symm
  by_cases hcase : l.parts = [] → ps = []
  · -- one comment carries the code that differs, and all others see the same owners
    obtain ⟨fs, k, place, c, hfs, hlen, hc, hm⟩ := exists_comments_append st l
    have hfirst : commentsFrom st blocks' l.lead.length fs =
        commentsFrom st blocks l.lead.length fs := by
      refine commentsFrom_congr st fun e he => (hfront _ ?_).symm
      omega
    obtain ⟨hcarried, hks⟩ := hm ⟨y :: x, ps⟩ hcase
    rw [hcarried, hks blocks, (hm ⟨y :: x', ps⟩ hcase).2 blocks', hrest, hfirst]
    refine SameBut.of_append_cons ?_ ⟨by omega, ?_⟩ ?_ fun hl => ?_
    · rw [length_carriedFrom, length_commentsFrom]
    · rw [List.length_append, List.length_cons]
      omega
    · rw [Comment.withoutCode_withCode, Comment.withoutCode_withCode]
    · rw [hc] at hl
      refine Comment.declaration_withCode_of_newline hl hy (hfront _ ?_).symm k x' x
      have := (List.takeWhile_prefix (l := c) isBlank).length_le
      omega
  · -- the code that differs stands in front of the first block comment: no comment carries it
    obtain ⟨hl, hps⟩ := Classical.not_imp.mp hcase
    have hlen : ∀ x, (l.lead ++ y :: x).length = l.text.length + (y :: x).length := by
      intro x
      rw [text, hl, partsText_nil, List.append_nil, List.length_append]
    rw [append_of_parts_eq_nil hl, append_of_parts_eq_nil hl, comments_of_parts_ne_nil hps,
      comments_of_parts_ne_nil hps, hlen, hlen, hrest]
    exact SameBut.refl _ _

/-- Two layouts that differ in one block comment give the same other comments, apart from owners;
the owners are the same, too, when they are at all places around the block comment. -/
theorem comments_body_congr (st : Style) (lead c : Text) (ps qs : List (BlockComment × Text))
    (b b' : BlockComment) (blocks blocks' : List OwnerBlock) {j : Nat} (hj : j ≠ ps.length) :
    let ks := (Layout.mk lead (ps ++ (b, c) :: qs)).comments st blocks
    let ks' := (Layout.mk lead (ps ++ (b', c) :: qs)).comments st blocks'
    ks'[j]?.map Comment.unowned = ks[j]?.map Comment.unowned ∧
      ((∀ p ≤ lead.length + (partsText ps).length,
          OwnerBlock.ownerAt p blocks = OwnerBlock.ownerAt p blocks') →
        (∀ e : Nat,
          OwnerBlock.ownerAt (lead.length + (partsText ps).length + b.length + e : Nat) blocks =
            OwnerBlock.ownerAt (lead.length + (partsText ps).length + b'.length + e : Nat)
              blocks') →
        ks'[j]? = ks[j]?) := by
  intro ks ks'
  have hks : ks = _ := comments_of_parts_eq_append rfl st blocks
  have hks' : ks' = _ := comments_of_parts_eq_append rfl st blocks'
  refine ⟨?_, fun hfront hback => ?_⟩
  · rw [hks, hks', ← List.getElem?_map, ← List.getElem?_map, List.map_append, List.map_append,
      List.map_cons, List.map_cons,
      unowned_commentsFrom st blocks' blocks lead.length lead.length ps,
      unowned_commentsFrom st blocks' blocks _
        (lead.length + (partsText ps).length + b.length + c.length) qs]
    refine getElem?_append_cons_of_ne _ _ _ _ ?_
    rwa [List.length_map, length_commentsFrom]
  · have hps : commentsFrom st blocks' lead.length ps = commentsFrom st blocks lead.length ps := by
      refine commentsFrom_congr st fun e he => (hfront _ ?_).symm
      omega
    have hqs : commentsFrom st blocks' (lead.length + (partsText ps).length + b'.length + c.length)
        qs = commentsFrom st blocks (lead.length + (partsText ps).length + b.length + c.length)
        qs := by
      refine commentsFrom_congr st fun e _ => ?_
      rw [Nat.add_assoc _ c.length, Nat.add_assoc _ c.length]
      exact (hback (c.length + e)).symm
    rw [hks, hks', hps, hqs]
    refine getElem?_append_cons_of_ne _ _ _ _ ?_
    rwa [length_commentsFrom]

end Layout

namespace Scan

open Layout (MeetsLine MeetsBlock)

theorem comments_ofSource {source : Text} (st : Style) (h : '\r' ∉ source) :
    (ofSource st source).comments =
      (Layout.ofSource source).comments st (OwnerBlock.inSource source) := by
  show (Layout.ofSource (unifyNewlines source)).comments st
    (OwnerBlock.inSource (unifyNewlines source)) = _
  rw [unifyNewlines_of_not_mem h]

/-- Other text in a line comment leaves all comments as they are, apart from the code of the one
that carries the line comment; and this one declares the same unless the line comment stands on the
first line of its code. -/
theorem comments_lineComment (st : Style) {u t t' v : Text} (h : MeetsLine u t v)
    (hr : '\r' ∉ u ++ '/' :: '/' :: (t ++ v)) (hn' : '\n' ∉ t') (hr' : '\r' ∉ t') :
    SameBut (Layout.ofSource (u ++ '/' :: '/' :: (t ++ v))).carried u.length u
      (ofSource st (u ++ '/' :: '/' :: (t ++ v))).comments
      (ofSource st (u ++ '/' :: '/' :: (t' ++ v))).comments := by
  have h' : MeetsLine u t' v := h.replace hn'
  have hr₁ : '\r' ∉ u ++ '/' :: '/' :: (t' ++ v) := by
    simp only [List.mem_append, List.mem_cons, not_or] at hr ⊢
    exact ⟨hr.1, hr.2.1, hr.2.2.1, hr', hr.2.2.2.2⟩
  -- no line begins in a line comment, so its text has no marks and those behind it only move
  have howner : ∀ {p p' : Nat},
      OwnerBlock.Aligned (OwnerBlock.Across u.length (u.length + (t.length + 2))
        (u.length + (t'.length + 2))) p p' →
      OwnerBlock.ownerAt p (OwnerBlock.inSource (u ++ '/' :: '/' :: (t ++ v))) =
        OwnerBlock.ownerAt p' (OwnerBlock.inSource (u ++ '/' :: '/' :: (t' ++ v))) :=
    OwnerBlock.ownerAt_inSource_eq fun f =>
      OwnerBlock.forall₂_marks_lineComment h.not_newline hn' f u v
  have hlen : ∀ s w : Text, ∀ e,
      u.length + ('/' :: '/' :: (s ++ w)).length + e =
        u.length + (s.length + 2) + (w.length + e) := by
    intro s w e
    simp only [List.length_cons, List.length_append]
    omega
  have hsame := Layout.sameBut_comments_append st (Layout.ofSource u)
    (Layout.ofSource v).parts (y := '/') rfl
    ('/' :: (t ++ (Layout.ofSource v).lead)) ('/' :: (t' ++ (Layout.ofSource v).lead))
    (OwnerBlock.inSource (u ++ '/' :: '/' :: (t ++ v)))
    (OwnerBlock.inSource (u ++ '/' :: '/' :: (t' ++ v)))
  rw [Layout.text_ofSource] at hsame
  rw [comments_ofSource st hr, comments_ofSource st hr₁, h.ofSource_eq, h'.ofSource_eq]
  refine hsame ?_ ?_
  · intro p hp
    exact howner (OwnerBlock.aligned_across_of_le (by omega) (by omega) hp)
  · intro e
    rw [hlen, hlen]
    exact howner (OwnerBlock.aligned_across_add (by omega) (by omega) _)

/-- A line comment behind a member in shorthand, rewritten so that it reads like markers of comments
and of blocks. -/
theorem comments_lineComment_member :
    ∃ u t t' v : Text,
      MeetsLine u t v ∧ '\r' ∉ u ++ '/' :: '/' :: (t ++ v) ∧ '\n' ∉ t' ∧ '\r' ∉ t' ∧
      (ofSource Style.untouched (u ++ '/' :: '/' :: (t' ++ v))).comments.map Comment.withoutCode =
        (ofSource Style.untouched (u ++ '/' :: '/' :: (t ++ v))).comments.map
          Comment.withoutCode ∧
      (ofSource Style.untouched (u ++ '/' :: '/' :: (t' ++ v))).comments[0]?.map
          Comment.declaration =
        (ofSource Style.untouched (u ++ '/' :: '/' :: (t ++ v))).comments[0]?.map
          Comment.declaration ∧
      (ofSource Style.untouched (u ++ '/' :: '/' :: (t ++ v))).comments.map Comment.owner? =
        [some ['A']] := by
  have hu : Layout.ofSource "A.prototype = \x7b\n/** x */\nm: 1,\n".toList =
      ⟨"A.prototype = \x7b\n".toList, [(⟨false, "* x ".toList, true⟩, "\nm: 1,\n".toList)]⟩ := by
    decide +kernel
  have hlead : ∀ r, Layout.Code "A.prototype = \x7b\n".toList r :=
    (Layout.code_of_not_opening (by decide)).of_newline_suffix (by decide)
  have hcode : ∀ r, Layout.Code "\nm: 1,\n".toList r :=
    (Layout.code_of_not_opening (by decide)).of_newline_suffix (by decide)
  have h : MeetsLine "A.prototype = \x7b\n/** x */\nm: 1,\n".toList " n".toList
      "\n\x7d;".toList := by
    refine ⟨?_, by decide, Or.inr (by decide)⟩
    rw [hu]
    refine ⟨hlead _, ?_⟩
    exact Layout.PartsBefore.cons rfl ⟨by decide, by decide⟩ (hcode _) Layout.PartsBefore.nil
  have hn' : '\n' ∉ "\x7d; */ /* B.prototype = \x7b".toList := by decide
  have hsame := comments_lineComment Style.untouched h (by decide) hn' (by decide)
  refine ⟨_, _, _, _, h, by decide, hn', by decide, hsame.texts, ?_, by decide +kernel⟩
  exact hsame.declares 0 24 "\nm: 1,\n// n\n\x7d;".toList (by decide +kernel) (by decide)
    (by decide +kernel)

theorem unifyNewlines_blockComment (u body v : Text) :
    unifyNewlines (u ++ '/' :: '*' :: (body ++ '*' :: '/' :: v)) =
      unifyNewlines u ++ '/' :: '*' :: (unifyNewlines body ++ '*' :: '/' :: unifyNewlines v) := by
  rw [unifyNewlines_append_cons (by decide), unifyNewlines_cons (by decide),
    unifyNewlines_cons (by decide), unifyNewlines_append_cons (by decide),
    unifyNewlines_cons (by decide), unifyNewlines_cons (by decide)]

/-- Another body of a block comment leaves all other comments as they are, apart from the owners of
members in shorthand; and these stay, too, when the lines that begin in the two bodies bear the same
marks of blocks. -/
theorem comments_blockComment (st : Style) {u body body' v : Text}
    (h : MeetsBlock (unifyNewlines u) (unifyNewlines body) (unifyNewlines v))
    (hc : ¬ ['*', '/'] <:+: body') (hm : ¬ ['!'] <+: body') (hr : '\r' ∉ body') :
    let ks := (ofSource st (u ++ '/' :: '*' :: (body ++ '*' :: '/' :: v))).comments
    let ks' := (ofSource st (u ++ '/' :: '*' :: (body' ++ '*' :: '/' :: v))).comments
    ks'.length = ks.length ∧
      ∀ j, j ≠ (Layout.ofSource (unifyNewlines u)).parts.length →
        ks'[j]?.map Comment.unowned = ks[j]?.map Comment.unowned ∧
          ((∀ f, OwnerBlock.innerMarks f (unifyNewlines body) = OwnerBlock.innerMarks f body') →
            ks'[j]? = ks[j]?) := by
  intro ks ks'
  have hks : ks = (Layout.ofSource _).comments st (OwnerBlock.inSource _) := rfl
  have hks' : ks' = (Layout.ofSource _).comments st (OwnerBlock.inSource _) := rfl
  rw [unifyNewlines_blockComment] at hks hks'
  rw [unifyNewlines_of_not_mem hr] at hks'
  generalize unifyNewlines u = u at h hks hks'
  generalize unifyNewlines body = body at h hks ⊢
  generalize unifyNewlines v = v at h hks hks'
  have h' : MeetsBlock u body' v := h.replace ⟨hc, fun _ => hm⟩
  rw [h.ofSource_eq] at hks
  rw [h'.ofSource_eq] at hks'
  rw [hks, hks']
  have hu : (Layout.ofSource u).lead.length +
      (Layout.partsText (Layout.ofSource u).parts).length = u.length := by
    rw [← List.length_append]
    exact congrArg List.length (Layout.text_ofSource u)
  have hlen : ∀ b : Text, (BlockComment.mk false b true).length = b.length + 4 := by
    intro b
    simp only [BlockComment.length, BlockComment.markLength, if_true, Bool.false_eq_true, if_false]
    omega
  refine ⟨?_, fun j hj => ?_⟩
  · rw [Layout.length_comments, Layout.length_comments, List.length_append, List.length_append]
    rfl
  · have hcongr := Layout.comments_body_congr st (Layout.ofSource u).lead (Layout.ofSource v).lead
      (Layout.ofSource u).parts (Layout.ofSource v).parts ⟨false, body, true⟩ ⟨false, body', true⟩
      (OwnerBlock.inSource (u ++ '/' :: '*' :: (body ++ '*' :: '/' :: v)))
      (OwnerBlock.inSource (u ++ '/' :: '*' :: (body' ++ '*' :: '/' :: v))) hj
    rw [hu, hlen, hlen] at hcongr
    refine ⟨hcongr.1, fun hmarks => hcongr.2 ?_ ?_⟩
    · intro p hp
      exact OwnerBlock.ownerAt_inSource_eq
        (fun f => OwnerBlock.forall₂_marks_blockComment (hmarks f) u v)
        (OwnerBlock.aligned_across_of_le (by omega) (by omega) hp)
    · intro e
      exact OwnerBlock.ownerAt_inSource_eq
        (fun f => OwnerBlock.forall₂_marks_blockComment (hmarks f) u v)
        (OwnerBlock.aligned_across_add (by omega) (by omega) e)

/-- A block comment in front of a member in shorthand: text without a block instead of other such
text leaves the next member to its owner. -/
theorem comments_blockComment_member :
    ∃ u body body' v : Text,
      MeetsBlock (unifyNewlines u) (unifyNewlines body) (unifyNewlines v) ∧
      ¬ ['*', '/'] <:+: body' ∧ ¬ ['!'] <+: body' ∧ '\r' ∉ body' ∧
      (∀ f, OwnerBlock.innerMarks f (unifyNewlines body) = OwnerBlock.innerMarks f body') ∧
      (ofSource Style.untouched (u ++ '/' :: '*' :: (body' ++ '*' :: '/' :: v))).comments[1]? =
        (ofSource Style.untouched (u ++ '/' :: '*' :: (body ++ '*' :: '/' :: v))).comments[1]? ∧
      (ofSource Style.untouched
          (u ++ '/' :: '*' :: (body ++ '*' :: '/' :: v))).comments[1]?.map Comment.owner? =
        some (some ['A']) := by
  have hu : Layout.ofSource (unifyNewlines "A.prototype = \x7b\r\n".toList) =
      ⟨"A.prototype = \x7b\n".toList, []⟩ := by
    decide +kernel
  have h : MeetsBlock (unifyNewlines "A.prototype = \x7b\r\n".toList)
      (unifyNewlines "* x\r\n ".toList)
      (unifyNewlines "\nm: 1,\n/** y */\nn: 2\n\x7d;".toList) := by
    refine ⟨?_, ⟨by decide +kernel, by decide +kernel⟩⟩
    rw [hu]
    exact Layout.before_of_newline (Or.inr (by decide)) (by decide +kernel) _
  have hc : ¬ ['*', '/'] <:+: " @private\nA\n".toList := by decide
  have hm : ¬ ['!'] <+: " @private\nA\n".toList := by decide
  have hr : '\r' ∉ " @private\nA\n".toList := by decide
  have hmarks : ∀ f, OwnerBlock.innerMarks f (unifyNewlines "* x\r\n ".toList) =
      OwnerBlock.innerMarks f " @private\nA\n".toList := by
    rintro (_ | _) <;> decide +kernel
  refine ⟨_, _, _, _, h, hc, hm, hr, hmarks, ?_, by decide +kernel⟩
  refine ((comments_blockComment Style.untouched h hc hm hr).2 1 ?_).2 hmarks
  rw [hu]
  decide

/-- The body of a block comment may open a block, and a member behind it may get its owner there. -/
theorem not_comments_blockComment :
    ¬ ∀ (st : Style) (u body body' v : Text) (j : Nat),
      MeetsBlock (unifyNewlines u) (unifyNewlines body) (unifyNewlines v) →
      ¬ ['*', '/'] <:+: body' → ¬ ['!'] <+: body' → '\r' ∉ body' →
      j ≠ (Layout.ofSource (unifyNewlines u)).parts.length →
      (ofSource st (u ++ '/' :: '*' :: (body' ++ '*' :: '/' :: v))).comments[j]? =
        (ofSource st (u ++ '/' :: '*' :: (body ++ '*' :: '/' :: v))).comments[j]? := by
  intro h
  have hmeets : MeetsBlock (unifyNewlines []) (unifyNewlines "\nFoo.prototype = \x7b\n".toList)
      (unifyNewlines "\n/** B */\nm: 1\n\x7d;\n".toList) := by
    refine ⟨?_, ⟨by decide +kernel, by decide +kernel⟩⟩
    rw [unifyNewlines_nil]
    exact ⟨Layout.Code.nil _, Layout.PartsBefore.nil⟩
  have howner := h Style.untouched [] _ " a ".toList _ 1 hmeets (by decide) (by decide) (by decide)
    (by decide +kernel)
  exact absurd howner (by decide +kernel)

end Scan

end Docblock
