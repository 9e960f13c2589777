/-
# Docblock.Proofs.Scan.Continuation — more text behind a source.

A text that is put behind a source is read on its own when a reader stands in code there.  So a
block comment behind a source begins a list of comments of its own: all that can reach across the
seam is the owner of a member in shorthand, for a block of the one text may open or close in the
other (`unowned_comments_append`).  Behind a source that ends within a block comment the one text
that matters is the closing marker, and it adds nothing: the body is the same with and without it,
no line begins in it, and so an open comment is read as if it were closed
(`comments_append_closing`).
-/
import Docblock.Proofs.Layout.Standing
import Docblock.Proofs.Scan.Replacement

namespace Docblock

namespace BlockComment

/-- A block comment with its closing marker. -/
def close (b : BlockComment) : BlockComment := { b with closed := true }

theorem text_close {b : BlockComment} (h : b.closed = false) :
    b.close.text = b.text ++ ['*', '/'] := by
  show '/' :: '*' :: ((if b.marked then ['!'] else []) ++ (b.body ++ ['*', '/'])) = _
  simp [text, h]

theorem Grammatical.close {b : BlockComment} (h : b.Grammatical) : b.close.Grammatical where
  not_closing := h.not_closing
  mark_taken := h.mark_taken

end BlockComment

namespace Layout

/-! ## A block comment behind a source -/

theorem lead_of_blockComment {s : Text} (h : ['/', '*'] <+: s) :
    (ofSource s).lead = [] ∧ (ofSource s).parts ≠ [] := by
  obtain ⟨r, rfl⟩ := h
  have hrun : codeRun false (['/', '*'] ++ r) = ([], some r) := by
    show codeRun false ('/' :: '*' :: r) = _
    rw [codeRun]
  rw [ofSource_eq hrun]
  refine ⟨rfl, fun hn => ?_⟩
  -- without a block comment nothing would be written for the text
  have ht := (partsFrom_parts r).2
  rw [show partsFrom r = [] from hn] at ht
  exact List.cons_ne_nil _ _ ht.symm

/-- The block comments of two texts stand one behind the other. -/
theorem ofSource_append_blockComment {s r : Text} (h : Standing.behind .code s = .code)
    (hs : ¬ ['/'] <:+ (ofSource s).lastRun) (hr : ['/', '*'] <+: r) :
    ofSource (s ++ r) = ⟨(ofSource s).lead, (ofSource s).parts ++ (ofSource r).parts⟩ := by
  have happend := ofSource_append (before_of_standing h hs r)
  rw [text_ofSource] at happend
  rw [happend]
  exact append_of_lead_eq_nil (lead_of_blockComment hr).1 (ofSource s)

/-! ## The closing marker behind a source -/

/-- A source whose last block comment is left open, and the same source with the closing marker. -/
theorem exists_ofSource_append_closing {s : Text} (h : (ofSource s).isOpen = true) :
    ∃ ps b, b.closed = false ∧ ofSource s = ⟨(ofSource s).lead, ps ++ [(b, [])]⟩ ∧
      ofSource (s ++ ['*', '/']) = ⟨(ofSource s).lead, ps ++ [(b.close, [])]⟩ := by
  have hg := ofSource_grammatical s
  have ht := text_ofSource s
  generalize ofSource s = l at h hg ht
  obtain ⟨⟨b, c⟩, hlast, hopen⟩ := (Option.any_eq_true _ _).mp h
  have hb : b.closed = false := by simpa using hopen
  obtain ⟨rfl, -⟩ := hg.parts.text_eq_of_open hlast hb
  obtain ⟨ps, hparts⟩ := List.getLast?_eq_some_iff.mp hlast
  obtain ⟨hbefore, hlone⟩ := hg.before hparts (List.cons_ne_nil _ _)
  have hgb : b.Grammatical := hlone.parts.grammatical_of_mem (List.mem_singleton_self (b, []))
  have hclosed : ofSource b.close.text = ⟨[], [(b.close, [])]⟩ := by
    refine ofSource_eq_iff.mpr ⟨⟨Code.nil _, ?_⟩, ?_⟩
    · exact Parts.closed rfl hgb.close (Code.nil _) Parts.nil
    · simp [text]
  have hsource : s ++ ['*', '/'] = (Layout.mk l.lead ps).text ++ b.close.text := by
    rw [← ht, text, text, hparts, BlockComment.text_close hb]
    simp
  have hbefore' : (Layout.mk l.lead ps).Before b.close.text := hbefore.of_head?_eq rfl
  have happend := ofSource_append hbefore'
  rw [← hsource, hclosed, append_of_lead_eq_nil rfl] at happend
  refine ⟨ps, b, hb, ?_, happend⟩
  rw [← hparts]

/-- What a comment says does not depend on its closing marker. -/
theorem comments_close (st : Style) (blocks : List OwnerBlock) (lead : Text)
    (ps : List (BlockComment × Text)) (b : BlockComment) :
    (Layout.mk lead (ps ++ [(b.close, [])])).comments st blocks =
      (Layout.mk lead (ps ++ [(b, [])])).comments st blocks := by
  have hblank : Text.blank [] = true := rfl
  rw [comments_of_parts_eq_append rfl, comments_of_parts_eq_append rfl,
    Comment.withCode_of_blank _ _ _ hblank, Comment.withCode_of_blank _ _ _ hblank]
  rfl

end Layout

/-- A closing marker begins no line, so no block begins or ends in it. -/
theorem OwnerBlock.inSource_append_closing (s : Text) :
    inSource (s ++ ['*', '/']) = inSource s := by
  have hmarks : ∀ f, marks f (s ++ ['*', '/']) = marks f s := by
    intro f
    rw [marks_append_cons ends_star, laterLines_of_not_mem (by decide)]
    exact List.append_nil _
  rw [inSource_eq, inSource_eq, hmarks, hmarks]

namespace Scan

/-- Behind a source that leaves the reader in code, and does not end with a slash of code, a text
that begins with a block comment adds its own comments: those of both texts are what they are in
either text alone, apart from the owners of members in shorthand. -/
theorem unowned_comments_append (st : Style) {a b : Text}
    (ha : Standing.behind .code (unifyNewlines a) = .code)
    (hs : ¬ ['/'] <:+ (Layout.ofSource (unifyNewlines a)).lastRun) (hb : ['/', '*'] <+: b) :
    (ofSource st (a ++ b)).comments.map Comment.unowned =
      (if (Layout.ofSource (unifyNewlines a)).parts = [] then []
        else (ofSource st a).comments.map Comment.unowned) ++
      (ofSource st b).comments.map Comment.unowned := by
  have hunify : unifyNewlines (a ++ b) = unifyNewlines a ++ unifyNewlines b := by
    obtain ⟨r, rfl⟩ := hb
    exact unifyNewlines_append_cons (by decide) a _
  have hb' : ['/', '*'] <+: unifyNewlines b := by
    obtain ⟨r, rfl⟩ := hb
    refine ⟨unifyNewlines r, ?_⟩
    show _ = unifyNewlines ('/' :: '*' :: r)
    rw [unifyNewlines_cons (by decide), unifyNewlines_cons (by decide)]
    rfl
  show ((Layout.ofSource (unifyNewlines (a ++ b))).comments st _).map _ =
    (if _ then [] else ((Layout.ofSource (unifyNewlines a)).comments st _).map _) ++
      ((Layout.ofSource (unifyNewlines b)).comments st _).map _
  rw [hunify]
  generalize unifyNewlines a = a at ha hs
  generalize unifyNewlines b = b at hb'
  have hne := (Layout.lead_of_blockComment hb').2
  have hparts : (Layout.ofSource (a ++ b)).parts =
      (Layout.ofSource a).parts ++ (Layout.ofSource b).parts := by
    rw [Layout.ofSource_append_blockComment ha hs hb']
  rw [Layout.comments_of_parts_ne_nil (by simp [hparts, hne]), hparts, Layout.commentsFrom_append,
    List.map_append, Layout.comments_of_parts_ne_nil hne,
    Layout.unowned_commentsFrom st _ (OwnerBlock.inSource b) _ (Layout.ofSource b).lead.length
      (Layout.ofSource b).parts]
  congr 1
  by_cases hn : (Layout.ofSource a).parts = []
  · rw [if_pos hn, hn]
    rfl
  · rw [if_neg hn, Layout.comments_of_parts_ne_nil hn]
    exact Layout.unowned_commentsFrom st _ _ _ _ _

/-- A block that the one text opens and the other closes owns the members in both, and those of
neither text alone. -/
theorem unowned_comments_append_member :
    ∃ a b : Text,
      Standing.behind .code (unifyNewlines a) = .code ∧ ['/'] <:+ a ∧
      ¬ ['/'] <:+ (Layout.ofSource (unifyNewlines a)).lastRun ∧ ['/', '*'] <+: b ∧
      (ofSource Style.untouched (a ++ b)).comments.map Comment.unowned =
        (if (Layout.ofSource (unifyNewlines a)).parts = [] then []
          else (ofSource Style.untouched a).comments.map Comment.unowned) ++
        (ofSource Style.untouched b).comments.map Comment.unowned ∧
      (ofSource Style.untouched (a ++ b)).comments.map Comment.owner? =
        [some ['A'], none, some ['A']] ∧
      (ofSource Style.untouched a).comments.map Comment.owner? = [none, none] ∧
      (ofSource Style.untouched b).comments.map Comment.owner? = [none] := by
  have ha : Standing.behind .code
      (unifyNewlines "A.prototype = \x7b\r\n/** x */\nm: 1,\n/** y */".toList) = .code := by
    decide +kernel
  have hs : ¬ ['/'] <:+ (Layout.ofSource
      (unifyNewlines "A.prototype = \x7b\r\n/** x */\nm: 1,\n/** y */".toList)).lastRun := by
    decide +kernel
  have hb : ['/', '*'] <+: "/** z */\nn: 2\n\x7d;".toList := by decide
  exact ⟨_, _, ha, by decide, hs, hb, unowned_comments_append _ ha hs hb, by decide +kernel,
    by decide +kernel, by decide +kernel⟩

/-- A source that ends within a block comment has the comments that it has with the closing marker
behind it, with which it ends in code and nothing is reported; the last of them carries no code, and
each carries what follows its block comment. -/
theorem comments_append_closing (st : Style) {source : Text}
    (h : Standing.behind .code (unifyNewlines source) = .blockComment) :
    (ofSource st (source ++ ['*', '/'])).comments = (ofSource st source).comments ∧
      Standing.behind .code (unifyNewlines (source ++ ['*', '/'])) = .code ∧
      (ofSource st (source ++ ['*', '/'])).warnings = [] ∧
      (∃ k, (ofSource st source).comments.getLast? = some k ∧ k.code = none ∧
        k.declaration = none) ∧
      ∀ (i : Nat) (b : BlockComment) (c : Text),
        (Layout.ofSource (unifyNewlines source)).parts[i]? = some (b, c) →
        ∃ k, (ofSource st source).comments[i]? = some k ∧
          k.Carries (unifyNewlines source)
            ((Layout.ofSource (unifyNewlines source)).before i).length c := by
  have hunify : unifyNewlines (source ++ ['*', '/']) = unifyNewlines source ++ ['*', '/'] := by
    rw [unifyNewlines_append_cons (by decide), unifyNewlines_cons (by decide),
      unifyNewlines_cons (by decide), unifyNewlines_nil]
  have hcomments : ∀ s, (ofSource st s).comments = (Layout.ofSource (unifyNewlines s)).comments st
      (OwnerBlock.inSource (unifyNewlines s)) := fun _ => rfl
  rw [hcomments, hcomments, warnings_ofSource, hunify, OwnerBlock.inSource_append_closing,
    Layout.standing_ofSource (_ ++ _)]
  generalize unifyNewlines source = n at h
  obtain ⟨ps, b, hb, hopen, hclosed⟩ :=
    Layout.exists_ofSource_append_closing (Layout.standing_eq_blockComment_iff.mp h)
  have hlast : (Layout.ofSource (n ++ ['*', '/'])).parts.getLast? = some (b.close, []) := by
    rw [hclosed]
    exact List.getLast?_concat
  refine ⟨?_, ?_, ?_, ?_, ?_⟩
  · rw [hclosed, Layout.comments_close, ← hopen]
  · rw [Layout.isOpen, Layout.lastRun, hlast]
    rfl
  · rw [Layout.unclosed?_eq (Layout.ofSource_grammatical _), hlast]
    rfl
  · rw [hopen, Layout.comments_of_parts_eq_append rfl]
    refine ⟨Comment.ofBlock st b, ?_, rfl, rfl⟩
    rw [Comment.withCode_of_blank _ _ _ rfl]
    exact List.getLast?_concat
  · intro i b' c hi
    refine ⟨_, Layout.comments_getElem? st _ hi, ?_⟩
    have ht := Layout.text_eq_before_append hi
    rw [Layout.text_ofSource] at ht
    exact Comment.carries_withCode rfl rfl _ c _ ht

/-- An open comment behind a member in shorthand, in a block that is closed in the comment. -/
theorem comments_append_closing_member :
    ∃ source : Text,
      Standing.behind .code (unifyNewlines source) = .blockComment ∧
      (ofSource Style.untouched (source ++ ['*', '/'])).comments =
        (ofSource Style.untouched source).comments ∧
      (ofSource Style.untouched (source ++ ['*', '/'])).warnings = [] ∧
      (ofSource Style.untouched source).warnings = [unclosedWarning 34] ∧
      (ofSource Style.untouched source).comments.map Comment.owner? = [some ['A'], none] := by
  have h : Standing.behind .code (unifyNewlines
      "A.prototype = \x7b\n/** x */\nm: 1,\n/*!\n\x7d;\r*".toList) = .blockComment := by
    decide +kernel
  have hclosing := comments_append_closing Style.untouched h
  exact ⟨_, h, hclosing.1, hclosing.2.2.1, by decide +kernel, by decide +kernel⟩

end Scan

end Docblock
