/-
# Docblock.Proofs.OwnerBlock.Mark — the marks that lines make.

To the search for blocks of one form a line says at most one of two things: that a block opens on
it, or that blocks indented so far close on it.  These marks, with the places of their lines, are
all that the blocks of a source depend on (`inSource_eq`).  A mark ends before the first slash, star
or line feed of its line, so the marks of a text that is put together at such a character are those
of its parts, and a comment between two parts adds the marks of the lines that begin in it.
-/
import Docblock.Proofs.OwnerBlock.Marker

namespace Docblock

namespace OwnerBlock

/-! ## Marks -/

/-- What a line says to the search for blocks of one form. -/
inductive Mark where
  | opens (o : Opener)
  | closes (indent : Nat)
  deriving DecidableEq, Repr

/-- The number of characters of a mark, the indentation included. -/
def Mark.length (f : Form) : Mark → Nat
  | opens o => o.length
  | closes indent => indent + f.closing.length

/-- The mark at the front of a text. -/
def mark? (f : Form) (s : Text) : Option Mark :=
  match opener? f s with
  | some o => some (.opens o)
  | none =>
    if Text.beginsWith f.closing (s.dropWhile isIndent) then
      some (.closes (s.takeWhile isIndent).length)
    else none

theorem mark?_of_opener? {f : Form} {s : Text} {o : Opener} (h : opener? f s = some o) :
    mark? f s = some (.opens o) := by
  rw [mark?, h]

theorem opener?_of_mark? {f : Form} {s : Text} {o : Opener} (h : mark? f s = some (.opens o)) :
    opener? f s = some o := by
  unfold mark? at h
  split at h
  · next o' ho =>
    obtain rfl := Mark.opens.inj (Option.some.inj h)
    exact ho
  · split at h <;> simp at h

/-- A line on which a block opens does not begin with a closing marker. -/
theorem not_closing_of_opener? {f : Form} {s : Text} {o : Opener} (h : opener? f s = some o) :
    ¬ f.closing <+: s.dropWhile isIndent := by
  simp only [opener?, Option.bind_eq_bind, Option.bind_eq_some_iff] at h
  obtain ⟨r, hr, name, hname, -, -, h⟩ := h
  rw [Text.after?_eq_some_iff] at hr
  rw [Text.before?_eq_some_iff] at hname
  rw [hr]
  intro hp
  cases f with
  | assigned =>
    -- the owner's path stands in front, and a brace does not belong to a path
    obtain ⟨t, ht⟩ := hp
    have hr' : r = '\x7d' :: ';' :: t := ht.symm
    have hbrace : ¬ isPath '\x7d' = true := by decide +kernel
    rw [hr', List.takeWhile_cons_of_neg hbrace] at hname
    exact absurd (List.append_eq_nil_iff.mp hname.symm).2 (by decide)
  | extended => exact absurd (List.cons_prefix_cons.mp hp).1 (by decide)

theorem closes_iff_mark? {f : Form} {indent : Nat} {s : Text} :
    closes f indent s = true ↔ mark? f s = some (.closes indent) := by
  unfold closes mark?
  cases ho : opener? f s with
  | some o => simp [not_closing_of_opener? ho]
  | none =>
    by_cases hc : f.closing <+: s.dropWhile isIndent
    · simp [hc]
    · simp [hc]

/-- A mark lies in the text at whose front it stands. -/
theorem length_le_of_mark? {f : Form} {s : Text} {m : Mark} (h : mark? f s = some m) :
    m.length f ≤ s.length := by
  have hle : ∀ {a : Text} {indent : Nat}, Begins a indent s → indent + a.length ≤ s.length := by
    rintro a indent ⟨ind, r, rfl, rfl, -⟩
    simp only [List.length_append]
    omega
  cases m with
  | opens o =>
    obtain ⟨hb, -, hl⟩ := begins_of_opener? (opener?_of_mark? h)
    show o.length ≤ s.length
    rw [hl]
    exact hle hb
  | closes indent => exact hle (begins_of_closes (closes_iff_mark?.mpr h))

/-! ## Blocks from marks -/

/-- The marks on lines, with the places of the lines. -/
def marked (f : Form) (ls : List (Nat × Text)) : List (Nat × Mark) :=
  ls.filterMap fun l => (mark? f l.2).map (l.1, ·)

/-- The marks on the lines of a text. -/
def marks (f : Form) (s : Text) : List (Nat × Mark) := marked f (lineStarts s)

/-- The place behind the first mark that closes blocks of an indentation. -/
def markedStop? (f : Form) (indent : Nat) (ms : List (Nat × Mark)) : Option Nat :=
  (ms.find? fun m => m.2 = .closes indent).map fun m => m.1 + m.2.length f

/-- The blocks that marks make. -/
def ofMarks (f : Form) : List (Nat × Mark) → List OwnerBlock
  | [] => []
  | (_, .closes _) :: ms => ofMarks f ms
  | (n, .opens o) :: ms =>
    { name := o.name, start := n,
      stop := ((markedStop? f o.indent ms).getD (n + o.length) : Nat) } :: ofMarks f ms

theorem marked_cons_of_none {f : Form} {s : Text} (h : mark? f s = none) (n : Nat)
    (ls : List (Nat × Text)) : marked f ((n, s) :: ls) = marked f ls :=
  List.filterMap_cons_none (by rw [h]; rfl)

theorem marked_cons_of_some {f : Form} {s : Text} {m : Mark} (h : mark? f s = some m) (n : Nat)
    (ls : List (Nat × Text)) : marked f ((n, s) :: ls) = (n, m) :: marked f ls :=
  List.filterMap_cons_some (by rw [h]; rfl)

theorem marked_append (f : Form) (ls ls' : List (Nat × Text)) :
    marked f (ls ++ ls') = marked f ls ++ marked f ls' := List.filterMap_append

theorem stop?_eq_markedStop? (f : Form) (indent : Nat) (ls : List (Nat × Text)) :
    stop? f indent ls = markedStop? f indent (marked f ls) := by
  induction ls with
  | nil => rfl
  | cons l ls ih =>
    obtain ⟨n, s⟩ := l
    rw [stop?, markedStop?] at ih
    rw [stop?, markedStop?]
    by_cases hc : mark? f s = some (.closes indent)
    · have hplace : n + indent + f.closing.length = n + (Mark.closes indent).length f :=
        Nat.add_assoc n indent f.closing.length
      rw [marked_cons_of_some hc, List.find?_cons_of_pos (by exact closes_iff_mark?.mpr hc),
        List.find?_cons_of_pos (by simp), Option.map_some, Option.map_some, hplace]
    · have hf : ¬ closes f indent s = true := fun h => hc (closes_iff_mark?.mp h)
      rw [List.find?_cons_of_neg (by exact hf)]
      cases hm : mark? f s with
      | none =>
        rw [marked_cons_of_none hm]
        exact ih
      | some m =>
        have hne : m ≠ .closes indent := fun h => hc (h ▸ hm)
        rw [marked_cons_of_some hm, List.find?_cons_of_neg (by simpa using hne)]
        exact ih

/-- Blocks depend on the marks of lines alone. -/
theorem among_eq_ofMarks (f : Form) (ls : List (Nat × Text)) :
    among f ls = ofMarks f (marked f ls) := by
  induction ls with
  | nil => rfl
  | cons l ls ih =>
    obtain ⟨n, s⟩ := l
    rw [among]
    split
    · next ho =>
      cases hm : mark? f s with
      | none => rw [marked_cons_of_none hm, ih]
      | some m =>
        -- a line without an opening marker may still close blocks, which makes none by itself
        cases m with
        | closes indent => rw [marked_cons_of_some hm, ofMarks, ih]
        | opens o => exact absurd (opener?_of_mark? hm) (by simp [ho])
    · next o ho =>
      rw [marked_cons_of_some (mark?_of_opener? ho), ofMarks, ih, stop?_eq_markedStop?]

theorem inSource_eq (s : Text) :
    inSource s =
      ofMarks .assigned (marks .assigned s) ++ ofMarks .extended (marks .extended s) := by
  rw [inSource, among_eq_ofMarks, among_eq_ofMarks, marks, marks]

/-! ## Lines of texts that are put together -/

theorem laterLines_append (n : Nat) (u w : Text) :
    laterLines n (u ++ w) =
      (laterLines n u).map (fun l => (l.1, l.2 ++ w)) ++ laterLines (n + u.length) w := by
  induction u generalizing n with
  | nil => rfl
  | cons c u ih =>
    have hl : n + (c :: u).length = n + 1 + u.length := by
      rw [List.length_cons]
      omega
    rw [List.cons_append, laterLines, laterLines, ih, hl]
    split <;> rfl

theorem laterLines_add (n k : Nat) (s : Text) :
    laterLines (n + k) s = (laterLines n s).map fun l => (l.1 + k, l.2) := by
  induction s generalizing n with
  | nil => rfl
  | cons c s ih =>
    have hk : n + k + 1 = n + 1 + k := by omega
    rw [laterLines, laterLines, hk, ih]
    split <;> rfl

theorem laterLines_of_not_mem {s : Text} (h : '\n' ∉ s) (n : Nat) : laterLines n s = [] := by
  induction s generalizing n with
  | nil => rfl
  | cons c s ih =>
    have hc : ¬ (c == '\n') = true := fun hc => h (beq_iff_eq.mp hc ▸ List.mem_cons_self)
    rw [laterLines, if_neg hc, ih (List.not_mem_of_not_mem_cons h)]

/-! ## Characters at which a mark ends -/

/-- A character that stands in no marker and in no indentation. -/
structure Ends (y : Char) : Prop where
  not_indent : isIndent y = false
  not_path : isPath y = false
  not_fixed : ∀ f : Form, y ∉ f.opening ∧ y ∉ f.bridge ∧ y ∉ f.closing

theorem ends_slash : Ends '/' where
  not_indent := rfl
  not_path := by decide +kernel
  not_fixed f := by cases f <;> decide

theorem ends_star : Ends '*' where
  not_indent := rfl
  not_path := by decide +kernel
  not_fixed f := by cases f <;> decide

theorem ends_newline : Ends '\n' where
  not_indent := rfl
  not_path := by decide +kernel
  not_fixed f := by cases f <;> decide

theorem opener?_append_cons {y : Char} (hy : Ends y) (f : Form) (t r : Text) :
    opener? f (t ++ y :: r) = opener? f t := by
  obtain ⟨hopening, hbridge, -⟩ := hy.not_fixed f
  unfold opener?
  rw [Text.takeWhile_append_cons hy.not_indent, Text.dropWhile_append_cons hy.not_indent,
    Text.after?_append_cons hopening]
  cases Text.after? f.opening (t.dropWhile isIndent) with
  | none => rfl
  | some e =>
    simp only [Option.map_some, Option.bind_eq_bind, Option.bind_some,
      Text.takeWhile_append_cons hy.not_path, Text.dropWhile_append_cons hy.not_path,
      Text.after?_append_cons hbridge]
    cases Text.after? f.bridge (e.dropWhile isPath) <;> rfl

theorem mark?_append_cons {y : Char} (hy : Ends y) (f : Form) (t r : Text) :
    mark? f (t ++ y :: r) = mark? f t := by
  have hclosing : Text.beginsWith f.closing ((t ++ y :: r).dropWhile isIndent) =
      Text.beginsWith f.closing (t.dropWhile isIndent) := by
    rw [Text.dropWhile_append_cons hy.not_indent, Bool.eq_iff_iff, Text.beginsWith_iff,
      Text.beginsWith_iff, Text.prefix_append_cons_iff (hy.not_fixed f).2.2]
  rw [mark?, mark?, opener?_append_cons hy, Text.takeWhile_append_cons hy.not_indent, hclosing]

/-! ## Marks of texts that are put together -/

theorem marked_map_append_cons {y : Char} (hy : Ends y) (f : Form) (ls : List (Nat × Text))
    (r : Text) : marked f (ls.map fun l => (l.1, l.2 ++ y :: r)) = marked f ls := by
  rw [marked, List.filterMap_map]
  refine List.filterMap_congr fun l _ => ?_
  rw [Function.comp_apply, mark?_append_cons hy]

theorem marked_map_add (f : Form) (ls : List (Nat × Text)) (k : Nat) :
    marked f (ls.map fun l => (l.1 + k, l.2)) = (marked f ls).map fun m => (m.1 + k, m.2) := by
  rw [marked, marked, List.filterMap_map, List.map_filterMap]
  refine List.filterMap_congr fun l _ => ?_
  rw [Function.comp_apply, Option.map_map]
  rfl

theorem marks_append_cons {y : Char} (hy : Ends y) (f : Form) (u r : Text) :
    marks f (u ++ y :: r) = marks f u ++ marked f (laterLines u.length (y :: r)) := by
  have hl : lineStarts (u ++ y :: r) =
      (lineStarts u).map (fun l => (l.1, l.2 ++ y :: r)) ++ laterLines u.length (y :: r) := by
    rw [lineStarts, laterLines_append, Nat.zero_add]
    rfl
  rw [marks, hl, marked_append, marked_map_append_cons hy, marks]

/-- A line comment has no marks. -/
theorem marks_lineComment {t : Text} (h : '\n' ∉ t) (f : Form) (u v : Text) :
    marks f (u ++ '/' :: '/' :: (t ++ v)) =
      marks f u ++ marked f (laterLines (u.length + (t.length + 2)) v) := by
  have hl : laterLines u.length ('/' :: '/' :: (t ++ v)) =
      laterLines (u.length + (t.length + 2)) v := by
    have hn : '\n' ∉ '/' :: '/' :: t := by simp [h]
    have := laterLines_append u.length ('/' :: '/' :: t) v
    rw [laterLines_of_not_mem hn] at this
    exact this
  rw [marks_append_cons ends_slash, hl]

/-- The marks of a block comment are those of the lines that begin in its body. -/
theorem marks_blockComment (f : Form) (u body v : Text) :
    marks f (u ++ '/' :: '*' :: (body ++ '*' :: '/' :: v)) =
      marks f u ++ (marked f (laterLines (u.length + 2) body) ++
        marked f (laterLines (u.length + (body.length + 4)) v)) := by
  have hl : laterLines u.length ('/' :: '*' :: (body ++ '*' :: '/' :: v)) =
      (laterLines (u.length + 2) body).map (fun l => (l.1, l.2 ++ '*' :: '/' :: v)) ++
        laterLines (u.length + (body.length + 4)) v := by
    have hplace : u.length + 2 + body.length + 2 = u.length + (body.length + 4) := by omega
    have hv : laterLines (u.length + 2 + body.length) ('*' :: '/' :: v) =
        laterLines (u.length + (body.length + 4)) v := by
      rw [← hplace]
      rfl
    rw [← hv, ← laterLines_append]
    rfl
  rw [marks_append_cons ends_slash, hl, marked_append, marked_map_append_cons ends_star]

/-- Behind a line feed the marks are those of the text that follows, so much farther on. -/
theorem marks_append_newline (f : Form) (p s : Text) :
    marks f (p ++ '\n' :: s) =
      marks f p ++ (marks f s).map fun m => (m.1 + (p.length + 1), m.2) := by
  have hl : laterLines p.length ('\n' :: s) =
      (lineStarts s).map fun l => (l.1 + (p.length + 1), l.2) := by
    have := laterLines_add 0 (p.length + 1) s
    rw [Nat.zero_add] at this
    rw [lineStarts, List.map_cons, ← this, laterLines, if_pos (beq_self_eq_true '\n'), Nat.zero_add]
  rw [marks_append_cons ends_newline, hl, marked_map_add, marks, marks]

/-! ## Places of marks -/

theorem of_mem_marked {f : Form} {ls : List (Nat × Text)} {m : Nat × Mark} (h : m ∈ marked f ls) :
    ∃ t, (m.1, t) ∈ ls ∧ mark? f t = some m.2 := by
  obtain ⟨⟨n, t⟩, hl, hm⟩ := List.mem_filterMap.mp h
  obtain ⟨m', hm', rfl⟩ := Option.map_eq_some_iff.mp hm
  exact ⟨t, hl, hm'⟩

/-- A mark of a later line stands in the text, behind its first line feed. -/
theorem place_of_mem_laterLines {f : Form} {n : Nat} {s : Text} {m : Nat × Mark}
    (h : m ∈ marked f (laterLines n s)) : n < m.1 ∧ m.1 + m.2.length f ≤ n + s.length := by
  obtain ⟨t, hl, hm⟩ := of_mem_marked h
  obtain ⟨u, rfl, hq⟩ := mem_laterLines_iff.mp hl
  have := length_le_of_mark? hm
  simp only [List.length_append, List.length_cons]
  omega

theorem place_of_mem_marks {f : Form} {s : Text} {m : Nat × Mark} (h : m ∈ marks f s) :
    m.1 + m.2.length f ≤ s.length := by
  obtain ⟨t, hl, hm⟩ := of_mem_marked h
  have hlen := length_le_of_mark? hm
  rcases List.mem_cons.mp hl with hl | hl
  · obtain ⟨h0, rfl⟩ := Prod.mk.inj hl
    omega
  · obtain ⟨u, rfl, hq⟩ := mem_laterLines_iff.mp hl
    simp only [List.length_append, List.length_cons]
    omega

end OwnerBlock

end Docblock
