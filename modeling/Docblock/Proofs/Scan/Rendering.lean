/-
# Docblock.Proofs.Scan.Rendering — rendering changes descriptions only.

A renderer is given the three texts of a description, after these have been told from one another
and from the tags, and nothing that comes later looks at what it makes of them.  So a scan that
renders is a scan that does not, with the descriptions rendered afterwards
(`commentsFrom_eq_map_rendered`).  The one comment that no renderer is shown is the empty one of a
source without block comments.  Main statement: `ofSource_rendered`.
-/
import Docblock.Proofs.Scan.Surroundings

namespace Docblock

namespace Comment

/-- A comment with each text of its description rendered. -/
def rendered (r : Text → Text) (k : Comment) : Comment :=
  { k with description := k.description.map r }

@[simp] theorem rendered_id (k : Comment) : k.rendered (fun s => s) = k := rfl

/-- A style is applied to the texts of the description that stand there without it. -/
theorem ofText_eq_rendered (st : Style) (s : Text) :
    ofText st s = (ofText .untouched s).rendered st.apply := rfl

theorem ofBlock_eq_rendered (st : Style) (b : BlockComment) :
    ofBlock st b = (ofBlock .untouched b).rendered st.apply := by
  unfold ofBlock
  rw [ofText_eq_rendered st]
  rfl

/-- Code is carried alike before and after rendering. -/
theorem withCode_rendered (blocks : List OwnerBlock) (place : Nat) (code : Text)
    (r : Text → Text) (k : Comment) :
    (k.rendered r).withCode blocks place code = (k.withCode blocks place code).rendered r := by
  cases hb : Text.blank code with
  | true => rw [withCode_of_blank _ _ _ hb, withCode_of_blank _ _ _ hb]
  | false =>
    rw [withCode_of_not_blank _ _ _ hb, withCode_of_not_blank _ _ _ hb]
    rfl

end Comment

namespace Layout

theorem commentsFrom_eq_map_rendered (st : Style) (blocks : List OwnerBlock) (place : Nat)
    (ps : List (BlockComment × Text)) :
    commentsFrom st blocks place ps =
      (commentsFrom .untouched blocks place ps).map (·.rendered st.apply) := by
  induction ps generalizing place with
  | nil => rfl
  | cons p ps ih =>
    obtain ⟨b, code⟩ := p
    rw [commentsFrom, commentsFrom, List.map_cons, ← ih, Comment.ofBlock_eq_rendered st,
      Comment.withCode_rendered]

variable (st : Style) (blocks : List OwnerBlock) {l : Layout}

theorem comments_eq_map_rendered (h : l.parts ≠ []) :
    l.comments st blocks = (l.comments .untouched blocks).map (·.rendered st.apply) := by
  rw [comments_of_parts_ne_nil h, comments_of_parts_ne_nil h, commentsFrom_eq_map_rendered st]

/-- Without block comments nothing is rendered. -/
theorem comments_of_parts_eq_nil (h : l.parts = []) :
    l.comments st blocks = [({} : Comment).withCode blocks 0 l.lead] := by
  unfold comments
  rw [h]

/-- The comments of block comments are rendered, each by itself. -/
theorem getElem?_comments_rendered (i : Nat) :
    (l.comments st blocks)[i]? = (l.comments .untouched blocks)[i]?.map fun k =>
      if i < l.parts.length then k.rendered st.apply else k := by
  by_cases h : l.parts = []
  · have hi : ¬ i < l.parts.length := by simp [h]
    rw [comments_of_parts_eq_nil st blocks h, comments_of_parts_eq_nil .untouched blocks h]
    simp only [if_neg hi, Option.map_id']
  · rw [comments_eq_map_rendered st blocks h, List.getElem?_map]
    by_cases hi : i < l.parts.length
    · simp only [if_pos hi]
    · have hlength : (l.comments .untouched blocks).length ≤ i := by
        rw [comments_of_parts_ne_nil h, length_commentsFrom]
        omega
      rw [List.getElem?_eq_none hlength]
      rfl

theorem comments_plain (r : Text → Text) :
    l.comments { plain := true, renderer := r } blocks = l.comments .untouched blocks := by
  by_cases h : l.parts = []
  · rw [comments_of_parts_eq_nil _ blocks h, comments_of_parts_eq_nil .untouched blocks h]
  · rw [comments_eq_map_rendered _ blocks h]
    show (l.comments .untouched blocks).map (fun k => k.rendered fun s => s) = _
    simp

end Layout

namespace Scan

/-- What is reported does not depend on the style. -/
theorem records_eq (st st' : Style) (source : Text) :
    (ofSource st source).records = (ofSource st' source).records := by
  unfold ofSource ofSourceWith
  simp only [Layout.length_comments]

/-- A plain scan leaves every description alone, whatever renderer it is given. -/
theorem ofSource_plain (r : Text → Text) (source : Text) :
    ofSource { plain := true, renderer := r } source = ofSource .untouched source := by
  unfold ofSource ofSourceWith
  simp only [Layout.comments_plain]

/-- **Rendering changes descriptions only.**  A scan that renders gives the comments of a plain
scan; in those of block comments, closed or not, each of the three texts of the description is the
rendered one, and all else is equal, the reports too.  The empty comment of a source without block
comments keeps its empty description.  A scan without rendering is the same for every renderer. -/
theorem ofSource_rendered (r : Text → Text) (source : Text) :
    (∀ i : Nat, (ofSource { renderer := r } source).comments[i]? =
      (ofSource .untouched source).comments[i]?.map fun k =>
        if i < (Layout.ofSource (unifyNewlines source)).parts.length then k.rendered r else k) ∧
    ((Layout.ofSource (unifyNewlines source)).parts = [] →
      ∃ k : Comment, (ofSource { renderer := r } source).comments = [k] ∧
        k.description = { full := [], summary := [], body := [] }) ∧
    (ofSource { renderer := r } source).records = (ofSource .untouched source).records ∧
    ∀ r' : Text → Text,
      ofSource { plain := true, renderer := r } source =
        ofSource { plain := true, renderer := r' } source := by
  refine ⟨?_, ?_, records_eq _ _ source, ?_⟩
  · intro i
    exact Layout.getElem?_comments_rendered { renderer := r } _ i
  · intro h
    refine ⟨_, Layout.comments_of_parts_eq_nil { renderer := r } _ h, ?_⟩
    rw [Comment.withCode_description]
  · intro r'
    rw [ofSource_plain, ofSource_plain]

/-- A source without comments, whose description stays empty, and one whose second comment is left
open, with a renderer that gives no text back as it is. -/
theorem ofSource_rendered_open :
    ∃ (r : Text → Text) (lone source : Text), r [] ≠ [] ∧
      (Layout.ofSource (unifyNewlines lone)).parts = [] ∧
      (∃ k, (ofSource { renderer := r } lone).comments = [k] ∧ k.code = some lone ∧
        k.description = { full := [], summary := [], body := [] }) ∧
      (ofSource { renderer := r } source).comments.map (fun k => (k.description, k.tags.length)) =
        [(⟨"<a>".toList, "<a>".toList, "<>".toList⟩, 1),
          (⟨"<b\n\nc>".toList, "<b>".toList, "<c>".toList⟩, 0)] := by
  let wrap : Text → Text := fun s => '<' :: s ++ ['>']
  have hparts : (Layout.ofSource (unifyNewlines "var a; // /*".toList)).parts = [] := by
    decide +kernel
  obtain ⟨-, hlone, -, -⟩ := ofSource_rendered wrap "var a; // /*".toList
  obtain ⟨k, hk, hdescription⟩ := hlone hparts
  have hcode : (ofSource { renderer := wrap } "var a; // /*".toList).comments.map (·.code) =
      [some "var a; // /*".toList] := by
    decide +kernel
  rw [hk] at hcode
  refine ⟨wrap, _, "/** a\n@b */ x; /*! b\n\nc".toList, by decide, hparts,
    ⟨k, hk, (List.cons.inj hcode).1, hdescription⟩, ?_⟩
  decide +kernel

end Scan

end Docblock
