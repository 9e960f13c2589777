/-
# Docblock.Proofs.Scan.Example — the text of an example is kept.

The gutter is taken off the lines of a comment, the whole is trimmed and cut into tags, and an
example takes its text from behind its keyword.  Each of these steps takes blanks away, and together
they take none of the lines of an example, apart from those at its end: the lines stand behind the
keyword, so trimming does not reach them in front, and nothing but a line that begins with a tag
ends them.  Main statement: wherever a written comment stands in a source, its tags are those of the
lines in front of the example, the example, and those of the lines behind (`comments_example`).
-/
import Docblock.Proofs.Comment.Tags
import Docblock.Proofs.Layout.Standing
import Docblock.Proofs.Scan.Replacement

namespace Docblock

/-- An example says its lines as they are, up to the last character that is not blank. -/
theorem Tag.ofText_example (ls : List Text) :
    ofText (Text.unlines ("@example".toList :: ls)) =
      { type := "example".toList, string := some (Text.trimEnd (Text.unlines ls)) } := by
  have hword : Text.IsWord ('@' :: "example".toList) := by decide
  have hkind : Kind.ofKeyword "example".toList = .example := by decide
  have hwords : ∃ ws, Text.words (Text.unlines ("@example".toList :: ls)) =
      ('@' :: "example".toList) :: ws := by
    cases ls with
    | nil =>
      rw [Text.unlines_singleton]
      exact ⟨[], hword.words_eq⟩
    | cons l ls =>
      have hbreak : isBlank '\n' = true := by decide
      refine ⟨Text.words (Text.unlines (l :: ls)), ?_⟩
      rw [Text.unlines_cons_cons, Text.words_append_cons hbreak]
      exact congrArg (· ++ _) hword.words_eq
  have htext : exampleText (Text.unlines ("@example".toList :: ls)) =
      Text.trimEnd (Text.unlines ls) := by
    cases ls with
    | nil => decide
    | cons l ls =>
      rw [Comment.unlines_cons, exampleText_keyword, Comment.unlines_cons]
      rfl
  obtain ⟨ws, hws⟩ := hwords
  rw [ofText_of_words hws, hkind, build, htext]

namespace Comment

/-- A written comment has the tags of its lines. -/
theorem tags_writtenBlock (st : Style) {ls : List Text} (h : ∀ l ∈ ls, '\n' ∉ l) :
    (ofText st (withoutGutter (writtenBlock ls).body)).tags =
      (ofText st (Text.unlines ls)).tags := by
  rw [ofText, ofText, trim_withoutGutter_written h]

/-- The tags in front of an example, the example and the tags behind it. -/
theorem tags_unlines_example (st : Style) {front body later : List Text}
    (hbody : ∀ l ∈ body, '\n' ∉ l ∧ ¬ ['@'] <+: l) (hlater : ∀ l ∈ later.head?, ['@'] <+: l) :
    (ofText st (Text.unlines (front ++ "@example".toList :: (body ++ later)))).tags =
      (ofText st (Text.unlines front)).tags ++
        { type := "example".toList, string := some (Text.trimEnd (Text.unlines body)) } ::
          (ofText st (Text.unlines later)).tags := by
  have hat : ['@'] <+: "@example".toList := by decide
  have hline : ∀ m ∈ "@example".toList :: body, '\n' ∉ m :=
    List.forall_mem_cons.mpr ⟨by decide, fun m hm => (hbody m hm).1⟩
  have hexample := tags_unlines_tag st hline hat fun m hm => (hbody m hm).2
  have hfirst : ∀ l ∈ ("@example".toList :: (body ++ later)).head?, ['@'] <+: l := by
    intro l hl
    rw [← Option.some.inj hl]
    exact hat
  rw [tags_unlines_append st front hfirst, ← List.cons_append,
    tags_unlines_append st ("@example".toList :: body) hlater, hexample, Tag.ofText_example,
    List.singleton_append]

end Comment

namespace Scan

open Comment (guttered writtenBlock)

/-- A written comment is found behind any source that leaves a reader in code, and not right behind
a slash of code. -/
theorem comments_written_getElem? (st : Style) {front : Text}
    (hfront : Standing.behind .code (unifyNewlines front) = .code)
    (hslash : ¬ ['/'] <:+ (Layout.ofSource (unifyNewlines front)).lastRun) {ls : List Text}
    (hls : ∀ l ∈ ls, '\n' ∉ l ∧ '\r' ∉ l ∧ ¬ ['*', '/'] <:+: l) (code : Text) :
    ∃ k : Comment,
      (ofSource st (front ++ ("/**\n".toList ++ (guttered ls ++ (" */".toList ++ code))))).comments[
        (Layout.ofSource (unifyNewlines front)).parts.length]? = some k ∧
      k.tags = (Comment.ofText st (Text.unlines ls)).tags := by
  have hsource : front ++ ("/**\n".toList ++ (guttered ls ++ (" */".toList ++ code))) =
      front ++ '/' :: '*' :: ((writtenBlock ls).body ++ '*' :: '/' :: code) := by
    simp [writtenBlock]
  have hreturn : '\r' ∉ (writtenBlock ls).body := by
    have hg : '\r' ∉ guttered ls := Comment.not_return_guttered fun l hl => (hls l hl).2.1
    simp [writtenBlock, hg]
  have hmeets : Layout.MeetsBlock (unifyNewlines front) (writtenBlock ls).body
      (unifyNewlines code) :=
    ⟨Layout.before_of_standing hfront hslash _,
      Comment.writtenBlock_grammatical fun l hl => (hls l hl).2.2⟩
  have hunified : unifyNewlines (front ++ ("/**\n".toList ++
      (guttered ls ++ (" */".toList ++ code)))) =
        unifyNewlines front ++
          '/' :: '*' :: ((writtenBlock ls).body ++ '*' :: '/' :: unifyNewlines code) := by
    rw [hsource, unifyNewlines_blockComment, unifyNewlines_of_not_mem hreturn]
  have hpart : (Layout.ofSource (unifyNewlines front ++
      '/' :: '*' :: ((writtenBlock ls).body ++ '*' :: '/' :: unifyNewlines code))).parts[
        (Layout.ofSource (unifyNewlines front)).parts.length]? =
      some (writtenBlock ls, (Layout.ofSource (unifyNewlines code)).lead) := by
    rw [hmeets.ofSource_eq]
    exact getElem?_append_cons_self _ _ _
  obtain ⟨k, hk, hb, -⟩ := (follows_ofSource st _).of_part _ _ _ (hunified ▸ hpart)
  refine ⟨k, hk, ?_⟩
  rw [hb.tags]
  exact Comment.tags_writtenBlock st fun l hl => (hls l hl).1

/-- The lines of an example in a written comment come back as they were written, without the blanks
at their end, wherever the comment stands and whatever tags stand around the example. -/
theorem comments_example (st : Style) {front : Text} {before body later : List Text}
    (hfront : Standing.behind .code (unifyNewlines front) = .code)
    (hslash : ¬ ['/'] <:+ (Layout.ofSource (unifyNewlines front)).lastRun)
    (hlines : ∀ l ∈ before ++ "@example".toList :: (body ++ later),
      '\n' ∉ l ∧ '\r' ∉ l ∧ ¬ ['*', '/'] <:+: l)
    (hbody : ∀ l ∈ body, ¬ ['@'] <+: l) (hlater : ∀ l ∈ later.head?, ['@'] <+: l)
    (code : Text) :
    ∃ k : Comment,
      (ofSource st (front ++ ("/**\n".toList ++
        (guttered (before ++ "@example".toList :: (body ++ later)) ++
          (" */".toList ++ code))))).comments[
        (Layout.ofSource (unifyNewlines front)).parts.length]? = some k ∧
      k.tags = (Comment.ofText st (Text.unlines before)).tags ++
        { type := "example".toList, string := some (Text.trimEnd (Text.unlines body)) } ::
          (Comment.ofText st (Text.unlines later)).tags := by
  obtain ⟨k, hk, htags⟩ := comments_written_getElem? st hfront hslash hlines code
  have hlines' : ∀ l ∈ body, '\n' ∉ l ∧ ¬ ['@'] <+: l := by
    intro l hl
    have hmem : l ∈ before ++ "@example".toList :: (body ++ later) := by simp [hl]
    exact ⟨(hlines l hmem).1, hbody l hl⟩
  refine ⟨k, hk, ?_⟩
  rw [htags, Comment.tags_unlines_example st hlines' hlater]

/-- An example between two other tags: its first line is indented, a line is empty, and a line
begins with a star. -/
theorem comments_example_indented :
    ∃ k : Comment,
      (ofSource Style.untouched
        ("a;\n/**\n * @param x\n * @example\n *   add(1,  2);\n * \n * * three\n".toList ++
          " *  @four\n *   \n * @private\n */ b;".toList)).comments[0]? = some k ∧
      k.tags =
        [Tag.ofText "@param x".toList,
          { type := "example".toList
            string := some "  add(1,  2);\n\n* three\n @four".toList },
          Tag.ofText "@private".toList] := by
  have hfront : Standing.behind .code (unifyNewlines "a;\n".toList) = .code := by decide +kernel
  have hslash : ¬ ['/'] <:+ (Layout.ofSource (unifyNewlines "a;\n".toList)).lastRun := by
    decide +kernel
  have hzero : (Layout.ofSource (unifyNewlines "a;\n".toList)).parts.length = 0 := by
    decide +kernel
  have hlines : ∀ l ∈ ["@param x".toList] ++ "@example".toList ::
      (["  add(1,  2);".toList, [], "* three".toList, " @four".toList, "  ".toList] ++
        ["@private".toList]), '\n' ∉ l ∧ '\r' ∉ l ∧ ¬ ['*', '/'] <:+: l := by
    decide
  obtain ⟨k, hk, htags⟩ := comments_example Style.untouched hfront hslash hlines (by decide)
    (by decide) " b;".toList
  rw [hzero] at hk
  exact ⟨k, hk, htags.trans (by decide +kernel)⟩

end Scan

end Docblock
