/-
# Docblock.Proofs.Scan.Comments — what a scan makes of a layout.

A scan makes one comment of each block comment and joins it to the run of code behind it; without
block comments a single empty comment carries all of the code.  `Layout.carried` lists the runs that
are carried, each with the place where it begins, so the comments of a layout are two lists side by
side: what the block comments say, and what they carry (`comments_eq_zipWith`).  Main statement: the
outcome of a scan is read off the only layout of the grammar that is written like the source
(`existsUnique_layout_follows`).
-/
import Docblock.Scan
import Docblock.Proofs.Layout.Grammar
import Docblock.Proofs.Text.Trimming

namespace Docblock

namespace Comment

/-! ## Carrying code -/

section Carrying

variable (blocks : List OwnerBlock) (place : Nat) {code : Text} (k : Comment)

theorem withCode_of_blank (h : Text.blank code = true) : k.withCode blocks place code = k := by
  rw [withCode, Text.trim_eq_nil_iff.mpr h]
  rfl

/-- The place of the code is the place of its first character that is not blank. -/
theorem withCode_of_not_blank (h : Text.blank code = false) :
    k.withCode blocks place code =
      { k with
        code := some (Text.trim code)
        declaration := Declaration.ofCode? (Text.trim code)
          (place + (code.takeWhile isBlank).length : Nat) blocks } := by
  have hne : (Text.trim code).isEmpty = false := by
    rw [List.isEmpty_eq_false_iff, ne_eq, Text.trim_eq_nil_iff, h]
    exact Bool.false_ne_true
  have hl : code.length - (Text.trimStart code).length = (code.takeWhile isBlank).length := by
    have := congrArg List.length (List.takeWhile_append_dropWhile (p := isBlank) (l := code))
    rw [List.length_append] at this
    unfold Text.trimStart
    omega
  rw [withCode, hne, hl]
  rfl

variable (code)

/-- Carrying code changes nothing else. -/
theorem exists_withCode :
    ∃ c d, k.withCode blocks place code = { k with code := c, declaration := d } := by
  cases h : Text.blank code with
  | true => exact ⟨k.code, k.declaration, withCode_of_blank blocks place k h⟩
  | false => exact ⟨_, _, withCode_of_not_blank blocks place k h⟩

/-- The code that is carried is trimmed; blank code leaves the comment as it is. -/
theorem withCode_code :
    (k.withCode blocks place code).code =
      if Text.blank code then k.code else some (Text.trim code) := by
  cases h : Text.blank code with
  | true =>
    rw [withCode_of_blank blocks place k h]
    rfl
  | false =>
    rw [withCode_of_not_blank blocks place k h]
    rfl

@[simp] theorem withCode_tags : (k.withCode blocks place code).tags = k.tags := by
  obtain ⟨c, d, h⟩ := exists_withCode blocks place code k
  rw [h]

@[simp] theorem withCode_description :
    (k.withCode blocks place code).description = k.description := by
  obtain ⟨c, d, h⟩ := exists_withCode blocks place code k
  rw [h]

@[simp] theorem withCode_isPrivate : (k.withCode blocks place code).isPrivate = k.isPrivate := by
  obtain ⟨c, d, h⟩ := exists_withCode blocks place code k
  rw [h]

@[simp] theorem withCode_ignored : (k.withCode blocks place code).ignored = k.ignored := by
  obtain ⟨c, d, h⟩ := exists_withCode blocks place code k
  rw [h]

end Carrying

/-- What a comment says is what stands in the block comment `b`. -/
structure HasTextOf (st : Style) (b : BlockComment) (k : Comment) : Prop where
  ignored : k.ignored = b.marked
  tags : k.tags = (ofText st (withoutGutter b.body)).tags
  description : k.description = (ofText st (withoutGutter b.body)).description
  isPrivate : k.isPrivate = (ofText st (withoutGutter b.body)).isPrivate

theorem hasTextOf_withCode (st : Style) (blocks : List OwnerBlock) (place : Nat) (code : Text)
    (b : BlockComment) : ((ofBlock st b).withCode blocks place code).HasTextOf st b where
  ignored := withCode_ignored blocks place code (ofBlock st b)
  tags := withCode_tags blocks place code (ofBlock st b)
  description := withCode_description blocks place code (ofBlock st b)
  isPrivate := withCode_isPrivate blocks place code (ofBlock st b)

/-- `k.Carries n place c` says that the comment `k` carries the run of code `c`, which begins at
`place` in the source `n`: trimmed, and with the declaration that is read at the place where the
trimmed code stands.  Blank code is not carried. -/
structure Carries (k : Comment) (n : Text) (place : Nat) (c : Text) : Prop where
  of_blank : Text.blank c = true → k.code = none ∧ k.declaration = none
  of_not_blank : Text.blank c = false →
    ∃ p, p = place + (c.takeWhile isBlank).length ∧
      (n.drop p).take (Text.trim c).length = Text.trim c ∧
      k.code = some (Text.trim c) ∧
      k.declaration = Declaration.ofCode? (Text.trim c) p (OwnerBlock.inSource n)

/-- A comment without code carries the code that it is given. -/
theorem carries_withCode {k : Comment} (hc : k.code = none) (hd : k.declaration = none)
    {n : Text} (u c v : Text) (hn : n = u ++ (c ++ v)) :
    (k.withCode (OwnerBlock.inSource n) u.length c).Carries n u.length c where
  of_blank h := by
    rw [withCode_of_blank _ _ _ h]
    exact ⟨hc, hd⟩
  of_not_blank h := by
    refine ⟨_, rfl, ?_, ?_, ?_⟩
    · obtain ⟨w, hw, -⟩ := Text.exists_trim c
      -- in front of the trimmed code stands all that precedes the run, and the blanks of the run
      have hs : n = (u ++ c.takeWhile isBlank) ++ (Text.trim c ++ (w ++ v)) := by
        conv_lhs => rw [hn, hw]
        simp
      rw [← List.length_append, hs, List.drop_left, List.take_left]
    · rw [withCode_of_not_blank _ _ _ h]
    · rw [withCode_of_not_blank _ _ _ h]

end Comment

namespace Layout

/-! ## The runs that are carried -/

/-- The runs of code behind block comments with their places; the first opening marker stands at
`place`. -/
def carriedFrom (place : Nat) : List (BlockComment × Text) → List (Nat × Text)
  | [] => []
  | (b, c) :: ps => (place + b.length, c) :: carriedFrom (place + b.length + c.length) ps

/-- The runs of code that the comments of a layout carry, with their places. -/
def carried (l : Layout) : List (Nat × Text) :=
  match l.parts with
  | [] => [(0, l.lead)]
  | ps => carriedFrom l.lead.length ps

/-- What the comments of a layout say, before they carry code. -/
def bareComments (st : Style) (l : Layout) : List Comment :=
  match l.parts with
  | [] => [{}]
  | ps => ps.map fun p => Comment.ofBlock st p.1

theorem commentsFrom_eq_zipWith (st : Style) (blocks : List OwnerBlock) (place : Nat)
    (ps : List (BlockComment × Text)) :
    commentsFrom st blocks place ps =
      List.zipWith (fun k r => Comment.withCode blocks r.1 r.2 k)
        (ps.map fun p => Comment.ofBlock st p.1) (carriedFrom place ps) := by
  induction ps generalizing place with
  | nil => rfl
  | cons p ps ih => rw [commentsFrom, ih, List.map_cons, carriedFrom, List.zipWith_cons_cons]

theorem carried_eq_carriedFrom {l : Layout} (h : l.parts ≠ []) :
    l.carried = carriedFrom l.lead.length l.parts := by
  unfold carried
  split
  · contradiction
  · rfl

theorem bareComments_eq_map {l : Layout} (st : Style) (h : l.parts ≠ []) :
    l.bareComments st = l.parts.map fun p => Comment.ofBlock st p.1 := by
  unfold bareComments
  split
  · contradiction
  · rfl

theorem comments_eq_zipWith (st : Style) (blocks : List OwnerBlock) (l : Layout) :
    l.comments st blocks =
      List.zipWith (fun k r => Comment.withCode blocks r.1 r.2 k)
        (l.bareComments st) l.carried := by
  by_cases h : l.parts = []
  · simp [comments, bareComments, carried, h]
  · rw [carried_eq_carriedFrom h, bareComments_eq_map st h, ← commentsFrom_eq_zipWith, comments]
    split
    · contradiction
    · rfl

@[simp] theorem length_carriedFrom (place : Nat) (ps : List (BlockComment × Text)) :
    (carriedFrom place ps).length = ps.length := by
  induction ps generalizing place with
  | nil => rfl
  | cons p ps ih => rw [carriedFrom, List.length_cons, ih, List.length_cons]

theorem length_comments (st : Style) (blocks : List OwnerBlock) (l : Layout) :
    (l.comments st blocks).length = max 1 l.parts.length := by
  rw [comments_eq_zipWith, List.length_zipWith]
  by_cases h : l.parts = []
  · simp [bareComments, carried, h]
  · have := List.length_pos_iff.mpr h
    rw [carried_eq_carriedFrom h, bareComments_eq_map st h, List.length_map, length_carriedFrom]
    omega

theorem carriedFrom_append (place : Nat) (ps qs : List (BlockComment × Text)) :
    carriedFrom place (ps ++ qs) =
      carriedFrom place ps ++ carriedFrom (place + (partsText ps).length) qs := by
  induction ps generalizing place with
  | nil => rfl
  | cons p ps ih =>
    obtain ⟨b, c⟩ := p
    simp only [List.cons_append, carriedFrom, ih, partsText_cons, List.length_append,
      BlockComment.length_text, Nat.add_assoc]

/-- What stands in a layout before the code behind its block comment number `i`. -/
def before (l : Layout) (i : Nat) : Text :=
  l.lead ++ partsText (l.parts.take i) ++ ((l.parts[i]?.map fun p => p.1.text).getD [])

/-- A layout is what stands before a run of code, that run, and the rest. -/
theorem text_eq_before_append {l : Layout} {i : Nat} {b : BlockComment} {c : Text}
    (h : l.parts[i]? = some (b, c)) :
    l.text = l.before i ++ (c ++ partsText (l.parts.drop (i + 1))) := by
  obtain ⟨hi, hb⟩ := List.getElem?_eq_some_iff.mp h
  have hs : l.parts = l.parts.take i ++ (b, c) :: l.parts.drop (i + 1) := by
    rw [← hb, List.cons_getElem_drop_succ, List.take_append_drop]
  rw [text, before, h]
  conv_lhs => rw [hs]
  simp

theorem carried_getElem? {l : Layout} {i : Nat} {b : BlockComment} {c : Text}
    (h : l.parts[i]? = some (b, c)) : l.carried[i]? = some ((l.before i).length, c) := by
  obtain ⟨hi, hb⟩ := List.getElem?_eq_some_iff.mp h
  have hs : l.parts = l.parts.take i ++ (b, c) :: l.parts.drop (i + 1) := by
    rw [← hb, List.cons_getElem_drop_succ, List.take_append_drop]
  have hl : (carriedFrom l.lead.length (l.parts.take i)).length = i := by
    rw [length_carriedFrom, List.length_take]
    omega
  rw [carried_eq_carriedFrom (List.ne_nil_of_length_pos (by omega))]
  conv_lhs => rw [hs, carriedFrom_append]
  rw [List.getElem?_append_right (by omega), hl, Nat.sub_self, carriedFrom]
  simp [before, h, Nat.add_assoc]

/-- The comment of a block comment says what is in it and carries the code behind it. -/
theorem comments_getElem? {l : Layout} {i : Nat} {b : BlockComment} {c : Text} (st : Style)
    (blocks : List OwnerBlock) (h : l.parts[i]? = some (b, c)) :
    (l.comments st blocks)[i]? =
      some ((Comment.ofBlock st b).withCode blocks (l.before i).length c) := by
  have hne : l.parts ≠ [] := by
    rintro hn
    simp [hn] at h
  rw [comments_eq_zipWith, List.getElem?_zipWith, carried_getElem? h, bareComments_eq_map st hne,
    List.getElem?_map, h]
  rfl

/-! ## The block comment that is left open -/

/-- The body of a block comment that is left open goes on to the end. -/
theorem Parts.text_eq_of_open {ps : List (BlockComment × Text)} (h : Parts ps) {b : BlockComment}
    {c : Text} (hl : ps.getLast? = some (b, c)) (hb : b.closed = false) :
    c = [] ∧ ∃ u, partsText ps = u ++ b.body := by
  induction h with
  | nil => exact absurd hl (by simp)
  | @unclosed b' _ _ =>
    obtain ⟨rfl, rfl⟩ := Prod.mk.inj (Option.some.inj hl)
    refine ⟨rfl, '/' :: '*' :: (if b'.marked then ['!'] else []), ?_⟩
    simp [BlockComment.text, hb]
  | @closed b' c' ps hb' _ _ _ ih =>
    cases ps with
    | nil =>
      obtain ⟨rfl, rfl⟩ := Prod.mk.inj (Option.some.inj hl)
      exact absurd (hb.symm.trans hb') (by decide)
    | cons q qs =>
      rw [List.getLast?_cons_cons] at hl
      obtain ⟨rfl, u, hu⟩ := ih hl
      refine ⟨rfl, b'.text ++ c' ++ u, ?_⟩
      rw [partsText_cons b' c' (q :: qs), hu, ← List.append_assoc]

/-- Only the last block comment can be left open, and its body goes on to the end. -/
theorem unclosedFrom?_eq {ps : List (BlockComment × Text)} (h : Parts ps) (place : Nat) :
    unclosedFrom? place ps =
      ps.getLast?.bind fun p =>
        if p.1.closed then none else some (place + (partsText ps).length - p.1.body.length) := by
  induction h generalizing place with
  | nil => rfl
  | @unclosed b hb _ =>
    have hl : place + 2 + b.markLength = place + b.length - b.body.length := by
      simp only [BlockComment.length, hb, Bool.false_eq_true, if_false]
      omega
    simp [unclosedFrom?, hb, hl]
  | @closed b c ps hb _ _ hps ih =>
    rw [unclosedFrom?, if_pos hb, ih]
    cases ps with
    | nil => simp [hb]
    | cons q qs =>
      have hl : place + b.length + c.length + (partsText (q :: qs)).length =
          place + (partsText ((b, c) :: q :: qs)).length := by
        rw [partsText_cons b c (q :: qs), List.length_append, List.length_append,
          BlockComment.length_text]
        omega
      rw [List.getLast?_cons_cons, hl]

theorem unclosed?_eq {l : Layout} (h : l.Grammatical) :
    l.unclosed? =
      l.parts.getLast?.bind fun p =>
        if p.1.closed then none else some (l.text.length - p.1.body.length) := by
  rw [unclosed?, unclosedFrom?_eq h.parts, text, List.length_append]

end Layout

namespace Scan

/-! ## The outcome of a scan -/

/-- The records of a scan that are warnings. -/
def warnings (r : Scan) : List LogRecord := r.records.filter (·.level = .warning)

theorem warnings_ofSource (st : Style) (source : Text) :
    (ofSource st source).warnings =
      ((Layout.ofSource (unifyNewlines source)).unclosed?.map unclosedWarning).toList := by
  show List.filter _ (_ ++ [summary _ _]) = _
  cases (Layout.ofSource (unifyNewlines source)).unclosed? <;> rfl

/-- The outcome `r` of a scan follows the layout `l`: there is one comment for each block comment,
in order, which says what is in it and carries the code behind it; without block comments one empty
comment carries all of the code; and there is one warning, with the place where its body begins,
about a block comment that is left open, and else none. -/
structure Follows (st : Style) (l : Layout) (r : Scan) : Prop where
  length_comments : r.comments.length = max 1 l.parts.length
  of_part : ∀ (i : Nat) (b : BlockComment) (c : Text), l.parts[i]? = some (b, c) →
    ∃ k : Comment, r.comments[i]? = some k ∧ k.HasTextOf st b ∧
      k.Carries l.text (l.lead ++ Layout.partsText (l.parts.take i) ++ b.text).length c
  of_lone : l.parts = [] →
    ∃ k : Comment, r.comments = [k] ∧ k.Carries l.text 0 l.lead ∧
      { k with code := none, declaration := none } = ({} : Comment)
  of_open : ∀ (b : BlockComment) (c : Text), l.parts.getLast? = some (b, c) → b.closed = false →
    c = [] ∧ ∃ p, l.text.drop p = b.body ∧ r.warnings = [unclosedWarning p]
  of_closed : (∀ (b : BlockComment) (c : Text), l.parts.getLast? = some (b, c) → b.closed = true) →
    r.warnings = []

theorem follows_ofSource (st : Style) (source : Text) :
    (ofSource st source).Follows st (Layout.ofSource (unifyNewlines source)) := by
  have hg := Layout.ofSource_grammatical (unifyNewlines source)
  have ht := Layout.text_ofSource (unifyNewlines source)
  have hc : (ofSource st source).comments =
    (Layout.ofSource (unifyNewlines source)).comments st
      (OwnerBlock.inSource (Layout.ofSource (unifyNewlines source)).text) := by rw [ht]; rfl
  have hw := warnings_ofSource st source
  generalize Layout.ofSource (unifyNewlines source) = l at *
  refine ⟨?_, ?_, ?_, ?_, ?_⟩
  · rw [hc]
    exact Layout.length_comments st _ l
  · intro i b c h
    refine ⟨_, hc ▸ Layout.comments_getElem? st _ h, Comment.hasTextOf_withCode st _ _ c b, ?_⟩
    have hb : l.before i = l.lead ++ Layout.partsText (l.parts.take i) ++ b.text := by
      rw [Layout.before, h]
      rfl
    rw [← hb]
    exact Comment.carries_withCode rfl rfl (l.before i) c _ (Layout.text_eq_before_append h)
  · intro h
    have hl : l.text = [] ++ (l.lead ++ []) := by simp [Layout.text, h]
    have hlone : (ofSource st source).comments =
        [({} : Comment).withCode (OwnerBlock.inSource l.text) 0 l.lead] := by
      simp [hc, Layout.comments, h]
    refine ⟨_, hlone, Comment.carries_withCode rfl rfl [] l.lead [] hl, ?_⟩
    obtain ⟨c, d, hk⟩ := Comment.exists_withCode (OwnerBlock.inSource l.text) 0 l.lead {}
    rw [hk]
  · intro b c h hb
    rw [Layout.unclosed?_eq hg, h, Option.bind_some, if_neg (by simp [hb])] at hw
    obtain ⟨rfl, u, hu⟩ := hg.parts.text_eq_of_open h hb
    refine ⟨rfl, _, ?_, hw⟩
    have : l.text = (l.lead ++ u) ++ b.body := by rw [Layout.text, hu, List.append_assoc]
    rw [this, List.length_append, Nat.add_sub_cancel, List.drop_left]
  · intro h
    rw [Layout.unclosed?_eq hg] at hw
    cases hl : l.parts.getLast? with
    | none => simpa [hl] using hw
    | some p => simpa [hl, h p.1 p.2 hl] using hw

/-- Exactly one layout of the grammar is written like a source, and the outcome of the scan follows
it. -/
theorem existsUnique_layout_follows (st : Style) (source : Text) :
    ∃ l : Layout, (l.Grammatical ∧ l.text = unifyNewlines source) ∧
      (∀ l' : Layout, l'.Grammatical ∧ l'.text = unifyNewlines source → l' = l) ∧
      (ofSource st source).Follows st l := by
  refine ⟨Layout.ofSource (unifyNewlines source), Layout.ofSource_eq_iff.mp rfl, ?_, ?_⟩
  · intro l' h
    exact (Layout.ofSource_eq_iff.mpr h).symm
  · exact follows_ofSource st source

end Scan

end Docblock
