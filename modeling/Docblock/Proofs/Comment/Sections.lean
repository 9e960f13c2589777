/-
# Docblock.Proofs.Comment.Sections — description and tags, put together and taken apart.

A tag begins with an at sign at the front of a line, so the tags of a text are its pieces between
line feeds that an at sign follows.  A description and tags that keep to this, each put on lines of
its own, are found again (`sections_unlines`): a description that is missing leaves nothing behind,
and the first tag then stands at the front of the text.
-/
import Docblock.Comment
import Docblock.Proofs.Text.Lines

namespace Docblock.Comment

/-- A description and tags that can be told from one another when each is put on lines of its own:
the lines that begin with an at sign are the first lines of the tags. -/
structure Sectioned (d : Text) (ts : List Text) : Prop where
  description : ∀ l ∈ Text.lines d, ¬ ['@'] <+: l
  tag : ∀ t ∈ ts, ['@'] <+: t
  behind_tag : ∀ t ∈ ts, ∀ l ∈ (Text.lines t).tail, ¬ ['@'] <+: l

/-- Texts behind one line feed each. -/
def headed (ts : List Text) : Text := ts.flatMap ('\n' :: ·)

theorem unlines_cons (p : Text) (ps : List Text) : Text.unlines (p :: ps) = p ++ headed ps :=
  Text.join_cons ['\n'] p ps

theorem headed_map_at (u : Text) (us : List Text) :
    headed ((u :: us).map ('@' :: ·)) = '\n' :: '@' :: Text.join ['\n', '@'] (u :: us) := by
  rw [Text.join_cons, headed, List.map_cons, List.flatMap_cons, List.flatMap_map]
  rfl

/-- Texts that begin with an at sign are found again behind a text that holds none of them. -/
theorem sections_of_eq_headed {s d : Text} {ts : List Text} (hd : ¬ ['\n', '@'] <:+: d)
    (hts : ∀ t ∈ ts, ['@'] <+: t ∧ ¬ ['\n', '@'] <:+: t)
    (hs : (if Text.beginsWith ['@'] s then '\n' :: s else s) = d ++ headed ts) :
    sections s = (d, ts) := by
  obtain ⟨us, rfl⟩ : ∃ us : List Text, ts = us.map ('@' :: ·) := by
    refine ⟨ts.map List.tail, ?_⟩
    rw [List.map_map, List.map_congr_left (g := id), List.map_id]
    intro t ht
    obtain ⟨u, rfl⟩ := (hts t ht).1
    rfl
  cases us with
  | nil =>
    have hs' : (if Text.beginsWith ['@'] s then '\n' :: s else s) = d := by
      rw [hs]
      exact List.append_nil d
    rw [sections, hs', Text.cut_of_not_infix hd]
    rfl
  | cons u us =>
    have hclear : ∀ v ∈ u :: us, Text.Clear ['\n', '@'] v := by
      intro v hv
      refine (Text.clear_pair_iff (by decide)).mpr fun hi => ?_
      exact (hts _ (List.mem_map_of_mem hv)).2 (List.infix_cons hi)
    rw [sections, hs, headed_map_at, Text.cut_pair (by decide) hd]
    show (d, (Text.pieces ['\n', '@'] (Text.join ['\n', '@'] (u :: us))).map ('@' :: ·)) = _
    rw [Text.pieces_join (List.cons_ne_nil _ _) hclear]

/-- A missing description leaves nothing but a line feed. -/
theorem trim_unlines_nil_cons (ts : List Text) :
    Text.trim (Text.unlines ([] :: ts)) = Text.trim (Text.unlines ts) := by
  cases ts with
  | nil => rfl
  | cons t ts =>
    have hu : Text.unlines ([] :: t :: ts) = '\n' :: Text.unlines (t :: ts) := by
      rw [unlines_cons, unlines_cons, headed, List.flatMap_cons]
      rfl
    rw [hu, Text.trim_cons_of_blank rfl]

/-- A description and tags, put on lines of their own, are the sections of what is written. -/
theorem sections_unlines {d : Text} {ts : List Text} (h : Sectioned d ts)
    (ht : ∀ s ∈ d :: ts, Text.trim s = s) :
    sections (Text.trim (Text.unlines (d :: ts))) = (d, ts) := by
  have hat : ('@' : Char) ≠ '\n' := by decide
  have hd : ¬ ['\n', '@'] <:+: d := by
    rw [Text.newline_infix_iff hat]
    rintro ⟨l, hl, hp⟩
    exact h.description l (List.mem_of_mem_tail hl) hp
  have hts : ∀ t ∈ ts, ['@'] <+: t ∧ ¬ ['\n', '@'] <:+: t := by
    intro t hm
    refine ⟨h.tag t hm, ?_⟩
    rw [Text.newline_infix_iff hat]
    rintro ⟨l, hl, hp⟩
    exact h.behind_tag t hm l hl hp
  have htight : ∀ t ∈ ts, Text.Tight t := by
    intro t hm
    obtain ⟨u, rfl⟩ := h.tag t hm
    exact Text.tight_of_trim_eq (ht _ (List.mem_cons_of_mem d hm)) (List.cons_ne_nil '@' u)
  refine sections_of_eq_headed hd hts ?_
  cases d with
  | nil =>
    rw [trim_unlines_nil_cons]
    cases ts with
    | nil => rfl
    | cons t ts =>
      -- the first tag stands at the front, and the line feed in front of it is put back
      have hfront : Text.beginsWith ['@'] (Text.unlines (t :: ts)) = true := by
        rw [Text.beginsWith_iff, unlines_cons]
        exact (h.tag t List.mem_cons_self).trans (List.prefix_append t _)
      rw [(Text.tight_unlines htight).trim_eq, if_pos hfront, unlines_cons]
      rfl
  | cons x d =>
    have hd' : Text.Tight (x :: d) :=
      Text.tight_of_trim_eq (ht _ List.mem_cons_self) (List.cons_ne_nil x d)
    have hall : ∀ s ∈ (x :: d) :: ts, Text.Tight s := List.forall_mem_cons.mpr ⟨hd', htight⟩
    have hfront : ¬ Text.beginsWith ['@'] (Text.unlines ((x :: d) :: ts)) = true := by
      rw [Text.beginsWith_iff, unlines_cons, List.cons_append, List.cons_prefix_cons]
      rintro ⟨rfl, -⟩
      obtain ⟨l, ls, hl, hp⟩ := Text.exists_lines_eq_cons hat ('@' :: d)
      exact h.description l (by rw [hl]; exact List.mem_cons_self) (hp.mpr (List.prefix_append _ d))
    rw [(Text.tight_unlines hall).trim_eq, if_neg hfront, unlines_cons]

end Docblock.Comment
