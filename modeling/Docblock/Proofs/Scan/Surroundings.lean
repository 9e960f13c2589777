/-
# Docblock.Proofs.Scan.Surroundings — what a comment takes from the source around it.

Of all that stands around a comment and its code, the comment depends on one thing only: the owner
at the place of the code, and on that only when a member in shorthand stands there.  So comments
stay the same when blocks and places move in a way that leaves the owners alone
(`commentsFrom_congr`), and whatever blocks there are, all but the owner and the string of members
in shorthand stays (`unowned_commentsFrom`).  Main statement: a header of whole lines without block
comments and without blocks changes no comment of the source behind it (`comments_behind_header`).
-/
import Docblock.Proofs.Layout.Seam
import Docblock.Proofs.OwnerBlock.Move
import Docblock.Proofs.Scan.Owner
import Docblock.Proofs.Text.LineEnd

namespace Docblock

/-! ## Declarations and owners -/

namespace Declaration

/-- A declaration depends on the first line of its code and on the owner at its place. -/
theorem ofCode?_congr {code code' : Text} {offset offset' : Int} {blocks blocks' : List OwnerBlock}
    (hl : Text.firstLine (Text.trim code) = Text.firstLine (Text.trim code'))
    (ho : OwnerBlock.ownerAt offset blocks = OwnerBlock.ownerAt offset' blocks') :
    ofCode? code offset blocks = ofCode? code' offset' blocks' := by
  rw [ofCode?, ofCode?, hl, onLine?, onLine?, ho]

/-- A declaration without what the block around it adds. -/
def unowned (d : Declaration) : Declaration :=
  { d with string := [], scope := d.scope.map fun s => { s with owner := none } }

/-- For a member in shorthand the owner shows in the scope and the string alone. -/
theorem unowned_ofReading {shape : Shape} (h : shape.isScoped = true) (r : Reading)
    (o o' : Option Text) : (ofReading r o shape).unowned = (ofReading r o' shape).unowned := by
  cases shape with
  | shorthandMethod => rfl
  | shorthandProperty => rfl
  | _ => exact absurd h (by decide)

end Declaration

namespace Comment

/-- A comment without what the block around a member in shorthand adds to it. -/
def unowned (k : Comment) : Comment :=
  if k.isShorthand then { k with declaration := k.declaration.map Declaration.unowned } else k

section

variable {blocks blocks' : List OwnerBlock} {place place' : Nat} {code : Text}

/-- The code that a comment carries depends on blocks through the owner at its place. -/
theorem withCode_congr
    (h : Text.blank code = false →
      OwnerBlock.ownerAt (place + (code.takeWhile isBlank).length : Nat) blocks =
        OwnerBlock.ownerAt (place' + (code.takeWhile isBlank).length : Nat) blocks')
    (k : Comment) : k.withCode blocks place code = k.withCode blocks' place' code := by
  cases hb : Text.blank code with
  | true => rw [withCode_of_blank _ _ _ hb, withCode_of_blank _ _ _ hb]
  | false =>
    rw [withCode_of_not_blank _ _ _ hb, withCode_of_not_blank _ _ _ hb,
      Declaration.ofCode?_congr rfl (h hb)]

theorem unowned_withCode (k : Comment) :
    (k.withCode blocks place code).unowned = (k.withCode blocks' place' code).unowned := by
  cases hb : Text.blank code with
  | true => rw [withCode_of_blank _ _ _ hb, withCode_of_blank _ _ _ hb]
  | false =>
    rw [withCode_of_not_blank _ _ _ hb, withCode_of_not_blank _ _ _ hb,
      Declaration.ofCode?_eq_bind_shape?, Declaration.ofCode?_eq_bind_shape?]
    cases hshape : Declaration.shape? (Text.trim code) with
    | none => rfl
    | some shape =>
      cases hs : shape.isScoped with
      | false => simp only [Option.bind_some, hs, Bool.false_eq_true, if_false]
      | true =>
        have hshort : ∀ d : Option Declaration,
            ({ k with code := some (Text.trim code), declaration := d } : Comment).isShorthand =
              true := by
          intro d
          simp [isShorthand, hshape, hs]
        rw [unowned, unowned, hshort, hshort, if_pos rfl, if_pos rfl]
        simp only [Option.bind_some, hs, if_true, Option.map_map, Comment.mk.injEq, true_and]
        congr 1
        funext r
        exact Declaration.unowned_ofReading hs r _ _

end

end Comment

namespace Layout

/-! ## Comments of parts of a layout -/

theorem comments_of_parts_ne_nil {l : Layout} (h : l.parts ≠ []) (st : Style)
    (blocks : List OwnerBlock) :
    l.comments st blocks = commentsFrom st blocks l.lead.length l.parts := by
  unfold comments
  split
  · contradiction
  · rfl

theorem commentsFrom_append (st : Style) (blocks : List OwnerBlock) (place : Nat)
    (ps qs : List (BlockComment × Text)) :
    commentsFrom st blocks place (ps ++ qs) =
      commentsFrom st blocks place ps ++
        commentsFrom st blocks (place + (partsText ps).length) qs := by
  induction ps generalizing place with
  | nil => rfl
  | cons p ps ih =>
    obtain ⟨b, c⟩ := p
    simp only [List.cons_append, commentsFrom, ih, partsText_cons, List.length_append,
      BlockComment.length_text, Nat.add_assoc]

@[simp] theorem length_commentsFrom (st : Style) (blocks : List OwnerBlock) (place : Nat)
    (ps : List (BlockComment × Text)) : (commentsFrom st blocks place ps).length = ps.length := by
  rw [commentsFrom_eq_zipWith, List.length_zipWith, List.length_map, length_carriedFrom,
    Nat.min_self]

/-- The comments of parts are the same elsewhere when the owners at their places are. -/
theorem commentsFrom_congr (st : Style) {blocks blocks' : List OwnerBlock} {place place' : Nat}
    {ps : List (BlockComment × Text)}
    (h : ∀ e < (partsText ps).length,
      OwnerBlock.ownerAt (place + e : Nat) blocks = OwnerBlock.ownerAt (place' + e : Nat) blocks') :
    commentsFrom st blocks place ps = commentsFrom st blocks' place' ps := by
  induction ps generalizing place place' with
  | nil => rfl
  | cons p ps ih =>
    obtain ⟨b, c⟩ := p
    have hl : (partsText ((b, c) :: ps)).length =
        b.length + (c.length + (partsText ps).length) := by
      simp only [partsText_cons, List.length_append, BlockComment.length_text, Nat.add_assoc]
    rw [hl] at h
    have hcode : (Comment.ofBlock st b).withCode blocks (place + b.length) c =
        (Comment.ofBlock st b).withCode blocks' (place' + b.length) c := by
      refine Comment.withCode_congr (fun hb => ?_) _
      have hlt := Text.length_takeWhile_lt hb
      have := h (b.length + (c.takeWhile isBlank).length) (by omega)
      rwa [← Nat.add_assoc, ← Nat.add_assoc] at this
    have hrest : commentsFrom st blocks (place + b.length + c.length) ps =
        commentsFrom st blocks' (place' + b.length + c.length) ps := by
      refine ih fun e he => ?_
      have := h (b.length + (c.length + e)) (by omega)
      rwa [← Nat.add_assoc, ← Nat.add_assoc, ← Nat.add_assoc, ← Nat.add_assoc] at this
    rw [commentsFrom, commentsFrom, hcode, hrest]

/-- Apart from owners, the comments of parts are the same everywhere. -/
theorem unowned_commentsFrom (st : Style) (blocks blocks' : List OwnerBlock) (place place' : Nat)
    (ps : List (BlockComment × Text)) :
    (commentsFrom st blocks place ps).map Comment.unowned =
      (commentsFrom st blocks' place' ps).map Comment.unowned := by
  induction ps generalizing place place' with
  | nil => rfl
  | cons p ps ih =>
    obtain ⟨b, c⟩ := p
    rw [commentsFrom, commentsFrom, List.map_cons, List.map_cons,
      ih _ (place' + b.length + c.length), Comment.unowned_withCode]

end Layout

/-! ## Headers -/

theorem newline_suffix_unifyNewlines {p : Text} (h : ['\n'] <:+ p) :
    ['\n'] <:+ unifyNewlines p := by
  obtain ⟨u, rfl⟩ := h
  by_cases hr : ['\r'] <:+ u
  · obtain ⟨w, rfl⟩ := hr
    have hseam : ¬ (['\r'] <:+ w ∧ ['\n'] <+: ['\r', '\n']) := by
      rintro ⟨-, hp⟩
      exact absurd (List.cons_prefix_cons.mp hp).1 (by decide)
    rw [List.append_assoc, List.singleton_append, unifyNewlines_append hseam,
      unifyNewlines_return_newline, unifyNewlines_nil]
    exact List.suffix_append _ _
  · rw [unifyNewlines_append fun hs => hr hs.1, unifyNewlines_cons (by decide), unifyNewlines_nil]
    exact List.suffix_append _ _

/-- Whole lines without block comments are code, whatever follows. -/
theorem Layout.before_of_newline {h : Text} (hn : h = [] ∨ ['\n'] <:+ h)
    (hc : (Layout.ofSource h).parts = []) (r : Text) :
    (Layout.mk h []).Before r where
  lead := by
    rcases hn with rfl | hn
    · exact Layout.Code.nil _
    · have hg := (Layout.ofSource_grammatical h).lead
      have ht := Layout.text_ofSource h
      rw [Layout.text, hc, Layout.partsText_nil, List.append_nil] at ht
      rw [ht] at hg
      exact hg.of_newline_suffix hn _
  parts := Layout.PartsBefore.nil

namespace Scan

/-- A header of whole lines without block comments and without blocks changes no comment of a source
with block comments. -/
theorem comments_behind_header (st : Style) {header source : Text}
    (hn : header = [] ∨ ['\n'] <:+ header)
    (hc : (Layout.ofSource (unifyNewlines header)).parts = [])
    (hb : OwnerBlock.inSource (unifyNewlines header) = [])
    (hs : (Layout.ofSource (unifyNewlines source)).parts ≠ []) :
    (ofSource st (header ++ source)).comments = (ofSource st source).comments := by
  have hunify : unifyNewlines (header ++ source) =
      unifyNewlines header ++ unifyNewlines source := by
    refine unifyNewlines_append ?_
    rintro ⟨hr, -⟩
    rcases hn with rfl | hn
    · exact absurd (List.suffix_nil.mp hr) (List.cons_ne_nil _ _)
    · have hsame : ['\r'] <:+ ['\n'] := List.suffix_of_suffix_length_le hr hn (Nat.le_refl 1)
      exact absurd (hsame.eq_of_length rfl) (by decide)
  have hn' : unifyNewlines header = [] ∨ ['\n'] <:+ unifyNewlines header := by
    rcases hn with rfl | hn
    · exact Or.inl unifyNewlines_nil
    · exact Or.inr (newline_suffix_unifyNewlines hn)
  show (Layout.ofSource (unifyNewlines (header ++ source))).comments st
    (OwnerBlock.inSource (unifyNewlines (header ++ source))) =
      (Layout.ofSource (unifyNewlines source)).comments st
        (OwnerBlock.inSource (unifyNewlines source))
  rw [hunify]
  generalize unifyNewlines header = h at hn' hc hb
  generalize unifyNewlines source = s at hs
  have hlayout : Layout.ofSource (h ++ s) =
      ⟨h ++ (Layout.ofSource s).lead, (Layout.ofSource s).parts⟩ := by
    have := Layout.ofSource_append (Layout.before_of_newline hn' hc s)
    rwa [Layout.append_of_parts_eq_nil rfl, Layout.text, Layout.partsText_nil,
      List.append_nil] at this
  have hparts : (Layout.ofSource (h ++ s)).parts ≠ [] := by
    rw [hlayout]
    exact hs
  rw [Layout.comments_of_parts_ne_nil hparts, Layout.comments_of_parts_ne_nil hs, hlayout]
  refine Layout.commentsFrom_congr st fun e _ => ?_
  have hplace : (h ++ (Layout.ofSource s).lead).length + e =
      (Layout.ofSource s).lead.length + e + h.length := by
    rw [List.length_append]
    omega
  rw [hplace]
  exact OwnerBlock.ownerAt_inSource_append hn' hb s _

/-- A member in shorthand behind a line comment that looks like a block comment. -/
theorem comments_behind_header_member :
    ∃ header source : Text,
      (header = [] ∨ ['\n'] <:+ header) ∧
      (Layout.ofSource (unifyNewlines header)).parts = [] ∧
      OwnerBlock.inSource (unifyNewlines header) = [] ∧
      (Layout.ofSource (unifyNewlines source)).parts ≠ [] ∧
      (ofSource Style.untouched (header ++ source)).comments =
        (ofSource Style.untouched source).comments ∧
      ((ofSource Style.untouched source).comments.map Comment.owner?) = [some ['A']] := by
  have hn : ['\n'] <:+ "// a /* b\n\x7d;\r\n".toList := by decide
  have hc : (Layout.ofSource (unifyNewlines "// a /* b\n\x7d;\r\n".toList)).parts = [] := by
    decide +kernel
  have hb : OwnerBlock.inSource (unifyNewlines "// a /* b\n\x7d;\r\n".toList) = [] := by
    decide +kernel
  have hs : (Layout.ofSource (unifyNewlines
      "A.prototype = \x7b\n/** x */\nm: 1\n\x7d;".toList)).parts ≠ [] := by
    decide +kernel
  exact ⟨_, _, Or.inr hn, hc, hb, hs, comments_behind_header _ (Or.inr hn) hc hb hs,
    by decide +kernel⟩

end Scan

end Docblock
