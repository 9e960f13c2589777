/-
# Docblock.Proofs.Scan.Written — what is written as a comment is read back.

The usual way to write a comment puts each of its lines behind a star and a space.  A scan takes
such a comment apart again: the layout finds it and the code behind it, the gutter goes from each
line, whatever the line begins with, and the sections are the description and the tags that were
written (`comments_written`).  What is asked of them is that they can be told from one another, that
they hold no closing marker and no carriage return, and that trimming leaves them alone.
-/
import Docblock.Proofs.Comment.Gutter
import Docblock.Proofs.Comment.Sections
import Docblock.Proofs.Scan.Comments
import Docblock.Proofs.Text.LineEnd

namespace Docblock

/-! ## Sources with one comment -/

namespace Comment

/-- Lines written as a comment, and the code behind it. -/
def written (ls : List Text) (code : Text) : Text :=
  "/**\n".toList ++ (guttered ls ++ (" */\n".toList ++ code))

/-- The block comment that the lines make. -/
def writtenBlock (ls : List Text) : BlockComment where
  marked := false
  body := "*\n".toList ++ (guttered ls ++ [' '])
  closed := true

theorem text_writtenBlock (ls : List Text) (code : Text) :
    (Layout.mk [] [(writtenBlock ls, '\n' :: code)]).text = written ls code := by
  have hclosing : " */\n".toList ++ code = [' '] ++ (['*', '/'] ++ '\n' :: code) := rfl
  rw [written, hclosing]
  simp [Layout.text, Layout.partsText, BlockComment.text, writtenBlock]

theorem writtenBlock_grammatical {ls : List Text} (h : ∀ l ∈ ls, ¬ ['*', '/'] <:+: l) :
    (writtenBlock ls).Grammatical where
  not_closing := by
    have hend : ¬ ['*'] <:+ "*\n".toList := by decide
    have hin : ¬ ['*', '/'] <:+: "*\n".toList := by decide
    rw [writtenBlock, Text.pair_infix_append]
    rintro (hi | hi | ⟨hi, -⟩)
    · exact hin hi
    · exact not_closing_guttered h hi
    · exact hend hi
  mark_taken _ hp := absurd (List.cons_prefix_cons.mp hp).1 (by decide)

/-- What is written has the layout it is meant to have. -/
theorem ofSource_written {ls : List Text} {code : Text} (h : ∀ l ∈ ls, ¬ ['*', '/'] <:+: l)
    (hc : ¬ ['/', '*'] <:+: code) :
    Layout.ofSource (written ls code) = ⟨[], [(writtenBlock ls, '\n' :: code)]⟩ := by
  have hcode : ¬ ['/', '*'] <:+: '\n' :: code := by
    rw [List.infix_cons_iff]
    rintro (hp | hi)
    · exact absurd (List.cons_prefix_cons.mp hp).1 (by decide)
    · exact hc hi
  refine Layout.ofSource_eq_iff.mpr ⟨⟨Layout.Code.nil _, ?_⟩, text_writtenBlock ls code⟩
  exact Layout.Parts.closed rfl (writtenBlock_grammatical h) (Layout.code_of_not_opening hcode)
    Layout.Parts.nil

/-- Without their gutter, the lines are what is left of the comment, apart from blanks. -/
theorem trim_withoutGutter_written {ls : List Text} (h : ∀ l ∈ ls, '\n' ∉ l) :
    Text.trim (withoutGutter (writtenBlock ls).body) = Text.trim (Text.unlines ls) := by
  have hbody : withoutGutter (writtenBlock ls).body =
      '\n' :: (ls.flatMap (· ++ ['\n']) ++ [' ']) := by
    calc withoutGutter (writtenBlock ls).body
        = withoutGutter ['*'] ++ '\n' :: withoutGutter (guttered ls ++ [' ']) :=
          withoutGutter_append ['*'] (guttered ls ++ [' '])
      _ = '\n' :: withoutGutter (guttered ls ++ [' ']) := rfl
      _ = '\n' :: (ls.flatMap (· ++ ['\n']) ++ [' ']) := by
          rw [withoutGutter_guttered_append h]
          rfl
  rw [hbody]
  cases ls with
  | nil => rfl
  | cons l ls =>
    rw [Text.flatMap_concat_newline, List.append_assoc]
    -- a line feed is left in front, and at the end another one and the blank of the closing line
    have hfront : Text.blank ['\n'] = true := rfl
    have hend : Text.blank ['\n', ' '] = true := rfl
    exact Text.trim_append_of_blank hfront hend (Text.unlines (l :: ls))

/-! ## Reading back -/

/-- A description and tags that can be written as a comment. -/
structure Writable (d : Text) (ts : List Text) : Prop extends Sectioned d ts where
  not_return : ∀ s ∈ d :: ts, '\r' ∉ s
  not_closing : ∀ s ∈ d :: ts, ¬ ['*', '/'] <:+: s
  trimmed : ∀ s ∈ d :: ts, Text.trim s = s

/-- The lines of a description and tags; the empty description may be written without a line. -/
def LinesOf (d : Text) (ts : List Text) (ls : List Text) : Prop :=
  ls = (d :: ts).flatMap Text.lines ∨ d = [] ∧ ls = ts.flatMap Text.lines

section

variable {d : Text} {ts ls : List Text}

/-- Each line to write is a line of one of the texts. -/
theorem LinesOf.exists_mem_lines (h : LinesOf d ts ls) :
    ∀ l ∈ ls, ∃ s ∈ d :: ts, l ∈ Text.lines s := by
  intro l hl
  rcases h with rfl | ⟨-, rfl⟩
  · exact List.mem_flatMap.mp hl
  · obtain ⟨s, hs, hls⟩ := List.mem_flatMap.mp hl
    exact ⟨s, List.mem_cons_of_mem d hs, hls⟩

theorem LinesOf.trim_unlines (h : LinesOf d ts ls) :
    Text.trim (Text.unlines ls) = Text.trim (Text.unlines (d :: ts)) := by
  rcases h with rfl | ⟨rfl, rfl⟩
  · rw [Text.unlines_flatMap_lines]
  · rw [trim_unlines_nil_cons]
    cases ts with
    | nil => rfl
    | cons t ts => rw [Text.unlines_flatMap_lines]

theorem not_return_written {code : Text} (h : Writable d ts) (hl : LinesOf d ts ls)
    (hc : '\r' ∉ code) : '\r' ∉ written ls code := by
  have hg : '\r' ∉ guttered ls := by
    apply not_return_guttered
    intro l hls hr
    obtain ⟨s, hs, hsl⟩ := hl.exists_mem_lines l hls
    exact h.not_return s hs ((Text.infix_of_mem_lines hsl).subset hr)
  simp [written, hg, hc]

end

end Comment

namespace Scan

open Comment (Writable LinesOf written writtenBlock)

/-- A source that is a comment and the code behind it has one comment, which carries the code. -/
theorem comments_of_single (st : Style) {s c : Text} {b : BlockComment} (hr : '\r' ∉ s)
    (hs : Layout.ofSource s = ⟨[], [(b, c)]⟩) :
    (ofSource st s).comments =
      [(Comment.ofBlock st b).withCode (OwnerBlock.inSource s) b.length c] := by
  show (Layout.ofSource (unifyNewlines s)).comments st (OwnerBlock.inSource (unifyNewlines s)) = _
  rw [unifyNewlines_of_not_mem hr, hs]
  show [(Comment.ofBlock st b).withCode _ (0 + b.length) c] = _
  rw [Nat.zero_add]

/-- A description and tags that are written as a comment, and the code behind it, are read back. -/
theorem comments_written (f : Text → Text) {d code : Text} {ts ls : List Text}
    (h : Writable d ts) (hl : LinesOf d ts ls) (hr : '\r' ∉ code) (hc : ¬ ['/', '*'] <:+: code) :
    ∃ k : Comment,
      (ofSource { plain := true, renderer := f } (written ls code)).comments = [k] ∧
      k.description.full = d ∧ k.tags = ts.map Tag.ofText ∧ k.ignored = false ∧
      k.code = if Text.blank code then none else some (Text.trim code) := by
  have hlines : ∀ l ∈ ls, '\n' ∉ l ∧ ¬ ['*', '/'] <:+: l := by
    intro l hls
    obtain ⟨s, hs, hsl⟩ := hl.exists_mem_lines l hls
    refine ⟨Text.not_mem_of_mem_lines hsl, fun hi => ?_⟩
    exact h.not_closing s hs (hi.trans (Text.infix_of_mem_lines hsl))
  have hsections : Comment.sections (Text.trim (Comment.withoutGutter (writtenBlock ls).body)) =
      (d, ts) := by
    rw [Comment.trim_withoutGutter_written fun l hm => (hlines l hm).1, hl.trim_unlines]
    exact Comment.sections_unlines h.toSectioned h.trimmed
  have hreturn := Comment.not_return_written h hl hr
  have hlayout := Comment.ofSource_written (fun l hm => (hlines l hm).2) hc
  have hcomments := comments_of_single { plain := true, renderer := f } hreturn hlayout
  have htrim : Text.trim ('\n' :: code) = Text.trim code := Text.trim_cons_of_blank rfl code
  have hblank : Text.blank ('\n' :: code) = Text.blank code := rfl
  refine ⟨_, hcomments, ?_, ?_, ?_, ?_⟩
  · rw [Comment.withCode_description]
    show (Comment.sections _).1 = d
    rw [hsections]
  · rw [Comment.withCode_tags]
    show (Comment.sections _).2.map Tag.ofText = ts.map Tag.ofText
    rw [hsections]
  · rw [Comment.withCode_ignored]
    rfl
  · rw [Comment.withCode_code, htrim, hblank]
    rfl

/-- A description of two lines, one of which begins with a star, and two tags. -/
theorem comments_written_function :
    ∃ (ls : List Text) (k : Comment),
      LinesOf "Adds.\n* Twice.".toList ["@param a\n  the first".toList, "@private".toList] ls ∧
      (ofSource Style.untouched (written ls "function add(a) \x7b\x7d".toList)).comments = [k] ∧
      k.description.full = "Adds.\n* Twice.".toList ∧
      k.tags = ["@param a\n  the first".toList, "@private".toList].map Tag.ofText ∧
      k.code = some "function add(a) \x7b\x7d".toList := by
  have hw : Writable "Adds.\n* Twice.".toList
      ["@param a\n  the first".toList, "@private".toList] := by
    refine ⟨⟨?_, ?_, ?_⟩, ?_, ?_, ?_⟩ <;> decide +kernel
  have hr : '\r' ∉ "function add(a) \x7b\x7d".toList := by decide
  have ho : ¬ ['/', '*'] <:+: "function add(a) \x7b\x7d".toList := by decide
  obtain ⟨k, hk, hd, ht, -, hc⟩ := comments_written id hw (Or.inl rfl) hr ho
  exact ⟨_, k, Or.inl rfl, hk, hd, ht, hc.trans (by decide +kernel)⟩

end Scan

end Docblock
