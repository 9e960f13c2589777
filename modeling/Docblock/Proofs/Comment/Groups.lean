/-
# Docblock.Proofs.Comment.Groups — description and tags, line by line.

The text of a comment is cut at line feeds that an at sign follows, and a line feed is put in front
of a text that begins with a tag so that this works there too.  To a reader of lines it is simpler:
the lines in front of the first that begins with an at sign are the description, and each such line
begins a group that goes on up to the next one.  Lines are grouped so in exactly one way
(`exists_grouped`, `Grouped.unique`).  Main statement: the description of a comment is the front,
its tags are the groups, and nothing of the text is lost (`ofText_grouped`).
-/
import Docblock.Proofs.Comment.Sections
import Docblock.Proofs.Tag.Fields
import Docblock.Proofs.Text.Words

namespace Docblock

namespace Comment

/-! ## Groups of lines -/

/-- The lines `ls` are those of `front`, none of which begins with an at sign, and then the groups,
in each of which the first line begins so and no other. -/
structure Grouped (ls front : List Text) (groups : List (List Text)) : Prop where
  lines : ls = front ++ groups.flatten
  front : ∀ l ∈ front, ¬ ['@'] <+: l
  group : ∀ g ∈ groups, ∃ l t, g = l :: t ∧ ['@'] <+: l ∧ ∀ m ∈ t, ¬ ['@'] <+: m

section

variable {l : Text} {ls front front' : List Text} {groups groups' : List (List Text)}

theorem grouped_nil_iff : Grouped [] front groups ↔ front = [] ∧ groups = [] := by
  constructor
  · intro h
    obtain ⟨hfront, hflat⟩ := List.append_eq_nil_iff.mp h.lines.symm
    refine ⟨hfront, List.eq_nil_iff_forall_not_mem.mpr fun g hg => ?_⟩
    obtain ⟨l, t, rfl, -⟩ := h.group g hg
    exact absurd (List.flatten_eq_nil_iff.mp hflat _ hg) (List.cons_ne_nil l t)
  · rintro ⟨rfl, rfl⟩
    exact ⟨rfl, by simp, by simp⟩

/-- A line that begins with an at sign begins a group. -/
theorem grouped_cons_iff_of_at (hl : ['@'] <+: l) :
    Grouped (l :: ls) front groups ↔
      front = [] ∧ ∃ t gs, groups = (l :: t) :: gs ∧ Grouped ls t gs := by
  constructor
  · intro h
    have hfront : front = [] := by
      cases front with
      | nil => rfl
      | cons m ms =>
        obtain rfl := (List.cons.inj h.lines).1
        exact absurd hl (h.front l List.mem_cons_self)
    subst hfront
    cases groups with
    | nil => exact absurd h.lines (by simp)
    | cons g gs =>
      obtain ⟨m, t, rfl, -, ht⟩ := h.group g List.mem_cons_self
      obtain ⟨rfl, hls⟩ := List.cons.inj h.lines
      exact ⟨rfl, t, gs, rfl, hls, ht, fun g hg => h.group g (List.mem_cons_of_mem _ hg)⟩
  · rintro ⟨rfl, t, gs, rfl, h⟩
    refine ⟨by rw [h.lines]; rfl, by simp, ?_⟩
    intro g hg
    rcases List.mem_cons.mp hg with rfl | hg
    · exact ⟨l, t, rfl, hl, h.front⟩
    · exact h.group g hg

/-- Any other line goes on with what it follows. -/
theorem grouped_cons_iff_of_not_at (hl : ¬ ['@'] <+: l) :
    Grouped (l :: ls) front groups ↔ ∃ t, front = l :: t ∧ Grouped ls t groups := by
  constructor
  · intro h
    cases front with
    | nil =>
      -- a group would have to begin with this line
      cases groups with
      | nil => exact absurd h.lines (by simp)
      | cons g gs =>
        obtain ⟨m, t, rfl, hm, -⟩ := h.group g List.mem_cons_self
        obtain ⟨rfl, -⟩ := List.cons.inj h.lines
        exact absurd hm hl
    | cons m ms =>
      obtain ⟨rfl, hls⟩ := List.cons.inj h.lines
      exact ⟨ms, rfl, hls, fun m hm => h.front m (List.mem_cons_of_mem _ hm), h.group⟩
  · rintro ⟨t, rfl, h⟩
    exact ⟨by rw [h.lines]; rfl, List.forall_mem_cons.mpr ⟨hl, h.front⟩, h.group⟩

theorem exists_grouped (ls : List Text) : ∃ front groups, Grouped ls front groups := by
  induction ls with
  | nil => exact ⟨[], [], grouped_nil_iff.mpr ⟨rfl, rfl⟩⟩
  | cons l ls ih =>
    obtain ⟨front, groups, h⟩ := ih
    by_cases hl : ['@'] <+: l
    · exact ⟨[], _, (grouped_cons_iff_of_at hl).mpr ⟨rfl, front, groups, rfl, h⟩⟩
    · exact ⟨_, groups, (grouped_cons_iff_of_not_at hl).mpr ⟨front, rfl, h⟩⟩

/-- Lines are grouped in one way. -/
theorem Grouped.unique (h : Grouped ls front groups) (h' : Grouped ls front' groups') :
    front' = front ∧ groups' = groups := by
  induction ls generalizing front groups front' groups' with
  | nil =>
    obtain ⟨rfl, rfl⟩ := grouped_nil_iff.mp h
    exact grouped_nil_iff.mp h'
  | cons l ls ih =>
    by_cases hl : ['@'] <+: l
    · obtain ⟨rfl, t, gs, rfl, ht⟩ := (grouped_cons_iff_of_at hl).mp h
      obtain ⟨rfl, t', gs', rfl, ht'⟩ := (grouped_cons_iff_of_at hl).mp h'
      obtain ⟨rfl, rfl⟩ := ih ht ht'
      exact ⟨rfl, rfl⟩
    · obtain ⟨t, rfl, ht⟩ := (grouped_cons_iff_of_not_at hl).mp h
      obtain ⟨t', rfl, ht'⟩ := (grouped_cons_iff_of_not_at hl).mp h'
      obtain ⟨rfl, rfl⟩ := ih ht ht'
      exact ⟨rfl, rfl⟩

end

/-! ## Sections of grouped lines -/

section

variable {s : Text} {front : List Text} {groups : List (List Text)}

/-- A text that is put together from lines holds an at sign behind a line feed when a line that is
not the first begins with one. -/
theorem not_newline_at_infix_unlines {l : Text} {t : List Text} (hline : ∀ m ∈ l :: t, '\n' ∉ m)
    (ht : ∀ m ∈ t, ¬ ['@'] <+: m) : ¬ ['\n', '@'] <:+: Text.unlines (l :: t) := by
  have hlines : Text.lines (Text.unlines (l :: t)) = l :: t :=
    List.splitOn_intercalate '\n' hline (List.cons_ne_nil l t)
  rw [Text.newline_infix_iff (by decide), hlines]
  rintro ⟨m, hm, hp⟩
  exact ht m hm hp

theorem at_prefix_unlines {l : Text} (hl : ['@'] <+: l) (t : List Text) :
    ['@'] <+: Text.unlines (l :: t) := by
  rw [unlines_cons]
  exact hl.trans (List.prefix_append l _)

theorem unlines_cons_append (l : Text) (t ls : List Text) :
    Text.unlines (l :: (t ++ ls)) = Text.unlines (l :: t) ++ headed ls := by
  simp only [unlines_cons, headed, List.flatMap_append, List.append_assoc]

/-- Behind a line feed each, groups are their lines. -/
theorem headed_map_unlines (h : ∀ g ∈ groups, g ≠ []) :
    headed (groups.map Text.unlines) = headed groups.flatten := by
  induction groups with
  | nil => rfl
  | cons g gs ih =>
    obtain ⟨l, t, rfl⟩ := List.exists_cons_of_ne_nil (h g List.mem_cons_self)
    have ih := ih fun g hg => h g (List.mem_cons_of_mem _ hg)
    simp only [headed, List.map_cons, List.flatMap_cons, List.flatten_cons, List.flatMap_append,
      unlines_cons] at ih ⊢
    rw [ih]
    simp

theorem Grouped.ne_nil {ls : List Text} (h : Grouped ls front groups) : ∀ g ∈ groups, g ≠ [] := by
  intro g hg
  obtain ⟨l, t, rfl, -⟩ := h.group g hg
  exact List.cons_ne_nil l t

theorem Grouped.eq_unlines (h : Grouped (Text.lines s) front groups) :
    s = Text.unlines (front ++ groups.flatten) := by
  rw [← h.lines, Text.unlines_lines]

/-- A front and groups, each put together from its lines, put together the text. -/
theorem Grouped.eq_unlines_map (h : Grouped (Text.lines s) front groups) :
    s = Text.unlines
      ((if front = [] then [] else [Text.unlines front]) ++ groups.map Text.unlines) := by
  cases front with
  | cons l t =>
    rw [if_neg (List.cons_ne_nil l t), List.singleton_append, unlines_cons (Text.unlines (l :: t)),
      headed_map_unlines h.ne_nil, ← unlines_cons_append]
    exact h.eq_unlines
  | nil =>
    cases groups with
    | nil => exact absurd h.lines (Text.lines_ne_nil s)
    | cons g gs =>
      obtain ⟨l, t, rfl, -⟩ := h.group g List.mem_cons_self
      have hgs := headed_map_unlines fun g hg => h.ne_nil g (List.mem_cons_of_mem _ hg)
      rw [if_pos rfl, List.nil_append, List.map_cons, unlines_cons (Text.unlines (l :: t)), hgs,
        ← unlines_cons_append]
      exact h.eq_unlines

/-- The sections of a text are the front and the groups of its lines. -/
theorem sections_of_grouped (h : Grouped (Text.lines s) front groups) :
    sections s = (Text.unlines front, groups.map Text.unlines) := by
  have hline : ∀ l ∈ front ++ groups.flatten, '\n' ∉ l := by
    intro l hl
    exact Text.not_mem_of_mem_lines (h.lines ▸ hl)
  apply sections_of_eq_headed
  · cases front with
    | nil => exact fun hi => absurd hi.length_le (by decide)
    | cons l t =>
      apply not_newline_at_infix_unlines
      · exact fun m hm => hline m (List.mem_append_left _ hm)
      · exact fun m hm => h.front m (List.mem_cons_of_mem l hm)
  · intro t ht
    obtain ⟨g, hg, rfl⟩ := List.mem_map.mp ht
    obtain ⟨l, t, rfl, hl, htail⟩ := h.group g hg
    refine ⟨at_prefix_unlines hl t, not_newline_at_infix_unlines (fun m hm => ?_) htail⟩
    exact hline m (List.mem_append_right _ (List.mem_flatten_of_mem hg hm))
  · rw [headed_map_unlines h.ne_nil]
    cases front with
    | cons l t =>
      have hfront : ¬ ['@'] <+: s := by
        obtain ⟨m, ms, hm, hp⟩ := Text.exists_lines_eq_cons (x := '@') (by decide) s
        obtain ⟨rfl, -⟩ := List.cons.inj (hm.symm.trans h.lines)
        rw [← hp]
        exact h.front m List.mem_cons_self
      rw [if_neg (by rwa [Text.beginsWith_iff]), ← unlines_cons_append]
      exact h.eq_unlines
    | nil =>
      -- the text begins with a tag, and the line feed in front of it is put there
      cases groups with
      | nil => exact absurd h.lines (Text.lines_ne_nil s)
      | cons g gs =>
        obtain ⟨l, t, rfl, hl, -⟩ := h.group g List.mem_cons_self
        have hs : s = Text.unlines (l :: (t ++ gs.flatten)) := h.eq_unlines
        have hfront : ['@'] <+: s := hs ▸ at_prefix_unlines hl _
        rw [if_pos (Text.beginsWith_iff.mpr hfront), hs, unlines_cons]
        rfl

end

end Comment

/-! ## Private comments -/

/-- What a tag belongs to is private when the first two words of the tag say so. -/
theorem Tag.isPrivateMark_ofText_iff {s : Text} (h : ['@'] <+: s) :
    (Tag.ofText s).isPrivateMark = true ↔
      ∃ ws, Text.words s = "@api".toList :: "private".toList :: ws := by
  obtain ⟨t, rfl⟩ := h
  obtain ⟨w, ws, hwords⟩ := Text.exists_words_eq_cons (c := '@') (by decide) t
  have hwords : Text.words (['@'] ++ t) = ('@' :: w) :: ws := hwords
  rw [Tag.isPrivateMark, Tag.ofText_of_words hwords, Tag.type_build, hwords, Bool.and_eq_true,
    decide_eq_true_eq, decide_eq_true_eq]
  constructor
  · rintro ⟨rfl, hvisibility⟩
    have hfirst : Tag.firstWord ws = "private".toList := Option.some.inj hvisibility
    cases ws with
    | nil => exact absurd hfirst (by decide)
    | cons v vs => exact ⟨vs, by rw [← hfirst]; rfl⟩
  · rintro ⟨vs, he⟩
    obtain ⟨hw, rfl⟩ := List.cons.inj he
    obtain rfl : w = "api".toList := (List.cons.inj hw).2
    exact ⟨rfl, rfl⟩

/-! ## Paragraphs -/

/-- A description is its summary and, when an empty line ends that, what follows the first such
line. -/
structure Description.Paragraphs (d : Description) : Prop where
  summary : ¬ ['\n', '\n'] <:+: d.summary
  single : ¬ ['\n', '\n'] <:+: d.full → d.summary = d.full ∧ d.body = []
  several : ['\n', '\n'] <:+: d.full →
    d.full = d.summary ++ '\n' :: '\n' :: d.body ∧ ¬ ['\n'] <:+ d.summary

theorem Description.paragraphs_ofText (s : Text) : (Description.ofText s).Paragraphs := by
  rcases Text.cut_spec (List.cons_ne_nil '\n' ['\n']) s with ⟨hs, hcut⟩ | ⟨a, r, ha, hs, hcut⟩
  · have hd : Description.ofText s = ⟨s, s, []⟩ := by simp only [Description.ofText, hcut]; rfl
    rw [hd]
    exact ⟨hs, fun _ => ⟨rfl, rfl⟩, fun h => absurd h hs⟩
  · have hd : Description.ofText s = ⟨s, a, r⟩ := by simp only [Description.ofText, hcut]; rfl
    have hin : ['\n', '\n'] <:+: s := ⟨a, r, by rw [hs, List.append_assoc]⟩
    rw [hd]
    refine ⟨ha.not_infix, fun h => absurd hin h, fun _ => ⟨hs, fun he => ha ?_⟩⟩
    exact Text.pair_infix_append.mpr (.inr (.inr ⟨he, List.prefix_rfl⟩))

/-- Plain texts stay as they are. -/
theorem Description.map_plain (r : Text → Text) (d : Description) :
    d.map (Style.apply { plain := true, renderer := r }) = d := rfl

/-! ## Main statement -/

namespace Comment

/-- The comment `k` is made of a text whose lines are `front` and then the groups. -/
structure MadeOf (k : Comment) (s : Text) (front : List Text) (groups : List (List Text)) :
    Prop where
  full : k.description.full = Text.unlines front
  paragraphs : k.description.Paragraphs
  tags : k.tags = groups.map fun g => Tag.ofText (Text.unlines g)
  whole : s = Text.unlines
    ((if front = [] then [] else [k.description.full]) ++ groups.map Text.unlines)
  isPrivate : k.isPrivate = true ↔
    ∃ g ∈ groups, ∃ ws, Text.words (Text.unlines g) = "@api".toList :: "private".toList :: ws

/-- The lines of the text of a comment are grouped in one way, and the comment is made of these
groups. -/
theorem ofText_grouped (r : Text → Text) (s : Text) :
    ∃ front groups, Grouped (Text.lines (Text.trim s)) front groups ∧
      (∀ front' groups', Grouped (Text.lines (Text.trim s)) front' groups' →
        front' = front ∧ groups' = groups) ∧
      (ofText { plain := true, renderer := r } s).MadeOf (Text.trim s) front groups := by
  obtain ⟨front, groups, h⟩ := exists_grouped (Text.lines (Text.trim s))
  have hread : ofText { plain := true, renderer := r } s =
      { tags := (groups.map Text.unlines).map Tag.ofText
        description := Description.ofText (Text.unlines front)
        isPrivate := ((groups.map Text.unlines).map Tag.ofText).any Tag.isPrivateMark } := by
    simp only [ofText, sections_of_grouped h, Description.map_plain]
  have htags : (groups.map Text.unlines).map Tag.ofText =
      groups.map fun g => Tag.ofText (Text.unlines g) := List.map_map
  refine ⟨front, groups, h, fun front' groups' h' => h.unique h', ?_⟩
  rw [hread]
  refine ⟨rfl, Description.paragraphs_ofText _, htags, h.eq_unlines_map, ?_⟩
  rw [htags, List.any_map, List.any_eq_true]
  refine exists_congr fun g => and_congr_right fun hg => ?_
  obtain ⟨l, t, rfl, hl, -⟩ := h.group g hg
  exact Tag.isPrivateMark_ofText_iff (at_prefix_unlines hl t)

end Comment

end Docblock
