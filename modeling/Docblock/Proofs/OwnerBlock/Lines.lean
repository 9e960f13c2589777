/-
# Docblock.Proofs.OwnerBlock.Lines — the blocks of a source, line by line.

The search for blocks looks at the rest of a source behind each of its line feeds.  A marker never
runs over the end of a line, though, so the lines alone tell the blocks: a line opens a block when
it is an indentation, an opening marker and anything behind it, and the block stops behind the first
later line that is the same indentation, the closing marker and anything behind it.  `Lists` says
just this of a list of lines and a list of blocks, without a search.  Main statement: what it says
is true of the lines of a source and its blocks, and of no other blocks (`inSource_eq_iff_lists`).
-/
import Docblock.Proofs.Declaration.Piece
import Docblock.Proofs.OwnerBlock.Mark
import Docblock.Proofs.Text.Lines

namespace Docblock

open Text (Stops)

namespace OwnerBlock

/-! ## Lines and their places -/

/-- Lines, each with the place where it begins; the first one begins at `place`, and one character
ends each line. -/
def placed (place : Nat) : List Text → List (Nat × Text)
  | [] => []
  | l :: ls => (place, l) :: placed (place + (l.length + 1)) ls

/-- A place at which the rest of a text begins, with the first line of the rest only. -/
def lineAt (p : Nat × Text) : Nat × Text := (p.1, Text.firstLine p.2)

/-- The lines of a text begin where the rests behind its line feeds do. -/
theorem placed_lines (place : Nat) (s : Text) :
    placed place (Text.lines s) = (place, Text.firstLine s) :: (laterLines place s).map lineAt := by
  induction s using Text.lines_induction generalizing place with
  | last s hs =>
    rw [Text.lines_of_not_mem hs, Text.firstLine_of_not_mem hs, laterLines_of_not_mem hs]
    rfl
  | more a b ha ih =>
    have hlater : laterLines place (a ++ '\n' :: b) =
        (place + (a.length + 1), b) :: laterLines (place + (a.length + 1)) b := by
      rw [laterLines_append, laterLines_of_not_mem ha]
      rfl
    rw [Text.lines_line_append ha, Text.firstLine_line_append ha, hlater, placed, ih]
    rfl

theorem placed_lines_eq (s : Text) : placed 0 (Text.lines s) = (lineStarts s).map lineAt :=
  placed_lines 0 s

/-! ## Marks do not run over a line -/

theorem mark?_firstLine (f : Form) (s : Text) : mark? f (Text.firstLine s) = mark? f s := by
  by_cases h : '\n' ∈ s
  · obtain ⟨a, b, rfl, ha⟩ := List.eq_append_cons_of_mem h
    rw [Text.firstLine_line_append ha, mark?_append_cons ends_newline]
  · rw [Text.firstLine_of_not_mem h]

theorem among_map_lineAt (f : Form) (ls : List (Nat × Text)) :
    among f (ls.map lineAt) = among f ls := by
  have hmarked : marked f (ls.map lineAt) = marked f ls := by
    rw [marked, List.filterMap_map]
    apply List.filterMap_congr
    intro l _
    simp only [Function.comp_apply, lineAt, mark?_firstLine]
  rw [among_eq_ofMarks, hmarked, among_eq_ofMarks]

/-- The blocks of a source are those among its lines. -/
theorem inSource_eq_among_placed (s : Text) :
    inSource s = among .assigned (placed 0 (Text.lines s)) ++
      among .extended (placed 0 (Text.lines s)) := by
  rw [placed_lines_eq, among_map_lineAt, among_map_lineAt, inSource]

/-! ## Lines that open a block -/

/-- The opening marker of a block, the owner's path in it. -/
def Form.written (name : Text) : Form → Text
  | .assigned => name ++ ".prototype = \x7b".toList
  | .extended => "_.extend(".toList ++ (name ++ ".prototype, \x7b".toList)

/-- The first character of the opening marker that belongs to no path. -/
def Form.sign : Form → Char
  | .assigned => ' '
  | .extended => '('

/-- The line `l` opens a block: it is the indentation `ind`, the opening marker with the owner's
path `name`, and `rest`. -/
structure Opens (f : Form) (l ind name rest : Text) : Prop where
  eq : l = ind ++ (f.written name ++ rest)
  indent : ∀ c ∈ ind, isIndent c = true
  ne_nil : name ≠ []
  path : ∀ c ∈ name, isPath c = true

theorem Form.written_eq (f : Form) (name : Text) :
    f.written name = f.opening ++ ((name ++ ".prototype".toList) ++ f.bridge) := by
  cases f with
  | assigned =>
    rw [List.append_assoc]
    rfl
  | extended =>
    rw [List.append_assoc]
    rfl

/-- Behind the owner's path and the word `prototype` no path goes on. -/
theorem Form.stops_bridge (f : Form) (rest : Text) : Stops isPath (f.bridge ++ rest) := by
  cases f <;> exact Text.stops_cons.mpr (by decide +kernel)

section

variable {f : Form} {l ind name rest : Text}

theorem Opens.isOwner (h : Opens f l ind name rest) : Declaration.IsOwner name :=
  ⟨h.ne_nil, h.path⟩

theorem Opens.path_prototype (h : Opens f l ind name rest) :
    ∀ c ∈ name ++ ".prototype".toList, isPath c = true :=
  h.isOwner.prototype.path

/-- The indentation is all that stands in front of the marker. -/
theorem Opens.stops_indent (h : Opens f l ind name rest) :
    Stops isIndent (f.written name ++ rest) := by
  obtain ⟨c, t, rfl⟩ := List.exists_cons_of_ne_nil h.ne_nil
  cases f with
  | assigned =>
    apply Text.stops_cons.mpr
    rw [Bool.eq_false_iff]
    intro hc
    have hpath := h.path c List.mem_cons_self
    rw [isPath_of_isIndent hc] at hpath
    exact absurd hpath (by decide)
  | extended => exact Text.stops_cons.mpr (by decide)

theorem Opens.takeWhile_indent (h : Opens f l ind name rest) : l.takeWhile isIndent = ind := by
  rw [h.eq]
  exact Text.takeWhile_append_of_stops h.indent h.stops_indent

theorem Opens.dropWhile_indent (h : Opens f l ind name rest) :
    l.dropWhile isIndent = f.opening ++ ((name ++ ".prototype".toList) ++ (f.bridge ++ rest)) := by
  rw [h.eq, Text.dropWhile_append_of_stops h.indent h.stops_indent, f.written_eq]
  simp only [List.append_assoc]

theorem Opens.opener? (h : Opens f l ind name rest) :
    opener? f l = some ⟨ind.length, name, (ind ++ f.written name).length⟩ := by
  have htake := Text.takeWhile_append_of_stops h.path_prototype (f.stops_bridge rest)
  have hdrop := Text.dropWhile_append_of_stops h.path_prototype (f.stops_bridge rest)
  have hbefore : Text.before? ".prototype".toList (name ++ ".prototype".toList) = some name :=
    Text.before?_eq_some_iff.mpr rfl
  have hname : name.isEmpty = false := List.isEmpty_eq_false_iff.mpr h.ne_nil
  have hlength : ind.length + f.opening.length + (name ++ ".prototype".toList).length +
      f.bridge.length = (ind ++ f.written name).length := by
    rw [f.written_eq]
    simp only [List.length_append]
    omega
  rw [← hlength]
  simp only [OwnerBlock.opener?, h.takeWhile_indent, h.dropWhile_indent, Text.after?_append,
    Option.bind_eq_bind, Option.bind_some, htake, hdrop, hbefore, hname, Bool.false_eq_true,
    if_false]

/-- An opening marker is read off the lines that open a block, and off no others. -/
theorem opener?_eq_some_iff {o : Opener} :
    OwnerBlock.opener? f l = some o ↔ ∃ ind name rest, Opens f l ind name rest ∧
      o = ⟨ind.length, name, (ind ++ f.written name).length⟩ := by
  constructor
  · intro h
    obtain ⟨⟨ind, rest, hl, hindent, hind⟩, -, hlength⟩ := begins_of_opener? h
    obtain ⟨indent, name, length⟩ := o
    obtain ⟨hne, hpath⟩ := name_of_opener? h
    have htext : Opener.text f ⟨indent, name, length⟩ = f.written name := (f.written_eq name).symm
    rw [htext] at hl hlength
    subst hindent
    refine ⟨ind, name, rest, ⟨hl, hind, hne, hpath⟩, ?_⟩
    rw [List.length_append, ← hlength]
  · rintro ⟨ind, name, rest, h, rfl⟩
    exact h.opener?

/-- The first character of an opening marker that belongs to no path tells the form. -/
theorem Opens.head?_behind_path (h : Opens f l ind name rest) :
    ((l.dropWhile isIndent).dropWhile isPath).head? = some f.sign := by
  rw [h.dropWhile_indent]
  cases f with
  | assigned =>
    show (((name ++ _) ++ (Form.assigned.bridge ++ rest)).dropWhile isPath).head? = _
    rw [Text.dropWhile_append_of_stops h.path_prototype (Form.assigned.stops_bridge rest)]
    rfl
  | extended =>
    have hword : ∀ c ∈ "_.extend".toList, isPath c = true := List.all_eq_true.mp (by decide +kernel)
    show (("_.extend".toList ++ '(' :: _).dropWhile isPath).head? = _
    rw [Text.dropWhile_append_of_stops hword (Text.stops_cons.mpr (by decide +kernel))]
    rfl

end

/-- A line is read in one way at most. -/
theorem Opens.unique {f f' : Form} {l ind ind' name name' rest rest' : Text}
    (h : Opens f l ind name rest) (h' : Opens f' l ind' name' rest') :
    f = f' ∧ ind = ind' ∧ name = name' ∧ rest = rest' := by
  have hind : ind = ind' := h.takeWhile_indent.symm.trans h'.takeWhile_indent
  have hform : f = f' := by
    have hhead := h.head?_behind_path.symm.trans h'.head?_behind_path
    cases f <;> cases f' <;> first | rfl | exact absurd hhead (by decide)
  subst hind hform
  have hname : name = name' := by
    have ho := h.opener?.symm.trans h'.opener?
    simp only [Option.some.injEq, Opener.mk.injEq] at ho
    exact ho.2.1
  subst hname
  have hl := h.eq.symm.trans h'.eq
  exact ⟨rfl, rfl, rfl, List.append_cancel_left (List.append_cancel_left hl)⟩

/-! ## Lines that close a block -/

theorem closes_iff_begins {f : Form} {indent : Nat} {s : Text} :
    closes f indent s = true ↔ Begins f.closing indent s := by
  refine ⟨begins_of_closes, ?_⟩
  rintro ⟨ind, r, rfl, rfl, hind⟩
  have hstops : Stops isIndent (f.closing ++ r) := by
    cases f <;> exact Text.stops_cons.mpr (by decide)
  rw [closes, Text.takeWhile_append_of_stops hind hstops,
    Text.dropWhile_append_of_stops hind hstops, beq_self_eq_true, Bool.true_and,
    Text.beginsWith_iff]
  exact List.prefix_append f.closing r

/-- A block that opens in front of the lines `later`, indented by `indent`, stops at `stop`: behind
the closing marker of the first of these lines that is indented as far and goes on with it, or else
at `brace`, the place behind its opening marker. -/
def StopsAt (f : Form) (indent brace : Nat) (later : List (Nat × Text)) (stop : Nat) : Prop :=
  (∃ pre q l post, later = pre ++ (q, l) :: post ∧ (∀ p ∈ pre, ¬ Begins f.closing indent p.2) ∧
    Begins f.closing indent l ∧ stop = q + (indent + f.closing.length)) ∨
  ((∀ p ∈ later, ¬ Begins f.closing indent p.2) ∧ stop = brace)

theorem stopsAt_iff {f : Form} {indent brace stop : Nat} {later : List (Nat × Text)} :
    StopsAt f indent brace later stop ↔ (stop? f indent later).getD brace = stop := by
  constructor
  · rintro (⟨pre, q, l, post, rfl, hpre, hl, rfl⟩ | ⟨hnone, rfl⟩)
    · have hfind : (pre ++ (q, l) :: post).find? (fun p => closes f indent p.2) = some (q, l) := by
        refine List.find?_eq_some_iff_append.mpr ⟨closes_iff_begins.mpr hl, pre, post, rfl, ?_⟩
        intro p hp
        rw [Bool.not_eq_true', Bool.eq_false_iff, ne_eq, closes_iff_begins]
        exact hpre p hp
      rw [stop?, hfind]
      exact Nat.add_assoc q indent f.closing.length
    · have hfind : later.find? (fun p => closes f indent p.2) = none := by
        rw [List.find?_eq_none]
        intro p hp
        rw [closes_iff_begins]
        exact hnone p hp
      rw [stop?, hfind]
      rfl
  · rintro rfl
    cases hfind : later.find? (fun p => closes f indent p.2) with
    | none =>
      refine .inr ⟨fun p hp => ?_, by rw [stop?, hfind]; rfl⟩
      rw [← closes_iff_begins]
      exact List.find?_eq_none.mp hfind p hp
    | some p =>
      obtain ⟨q, l⟩ := p
      obtain ⟨hl, pre, post, hlater, hpre⟩ := List.find?_eq_some_iff_append.mp hfind
      refine .inl ⟨pre, q, l, post, hlater, fun p hp => ?_, closes_iff_begins.mp hl, ?_⟩
      · rw [← closes_iff_begins]
        simpa using hpre p hp
      · rw [stop?, hfind]
        exact Nat.add_assoc q indent f.closing.length

/-! ## Lists of blocks -/

/-- The blocks of the form `f` that open on lines: each line that opens a block gives one, and the
other lines give none. -/
inductive Lists (f : Form) : List (Nat × Text) → List OwnerBlock → Prop
  | nil : Lists f [] []
  | opens {place stop : Nat} {l ind name rest : Text} {later : List (Nat × Text)}
      {bs : List OwnerBlock} (hopens : Opens f l ind name rest)
      (hstop : StopsAt f ind.length (place + (ind ++ f.written name).length) later stop)
      (hlater : Lists f later bs) : Lists f ((place, l) :: later) (⟨name, place, stop⟩ :: bs)
  | other {place : Nat} {l : Text} {later : List (Nat × Text)} {bs : List OwnerBlock}
      (hother : ∀ ind name rest, ¬ Opens f l ind name rest) (hlater : Lists f later bs) :
      Lists f ((place, l) :: later) bs

theorem lists_iff {f : Form} {ls : List (Nat × Text)} {bs : List OwnerBlock} :
    Lists f ls bs ↔ among f ls = bs := by
  constructor
  · intro h
    induction h with
    | nil => rfl
    | opens hopens hstop _ ih => rw [among, hopens.opener?, ih, ← stopsAt_iff.mp hstop]
    | @other place l later bs hother _ ih =>
      have hnone : opener? f l = none := by
        rw [Option.eq_none_iff_forall_ne_some]
        intro o ho
        obtain ⟨ind, name, rest, hopens, -⟩ := opener?_eq_some_iff.mp ho
        exact hother ind name rest hopens
      rw [among, hnone, ih]
  · rintro rfl
    induction ls with
    | nil => exact .nil
    | cons p later ih =>
      obtain ⟨place, l⟩ := p
      cases ho : opener? f l with
      | none =>
        rw [among, ho]
        refine .other (fun ind name rest hopens => ?_) ih
        rw [hopens.opener?] at ho
        cases ho
      | some o =>
        obtain ⟨ind, name, rest, hopens, rfl⟩ := opener?_eq_some_iff.mp ho
        rw [among, ho]
        exact .opens hopens (stopsAt_iff.mpr rfl) ih

/-! ## Where blocks lie -/

/-- A marker that stands at a place of a text lies in the text. -/
theorem Begins.length_le {m s : Text} {indent place : Nat} (h : Begins m indent (s.drop place))
    (hm : m ≠ []) : place + (indent + m.length) ≤ s.length := by
  obtain ⟨ind, r, hs, rfl, -⟩ := h
  have hl := congrArg List.length hs
  have := List.length_pos_iff.mpr hm
  simp only [List.length_drop, List.length_append] at hl
  omega

theorem bounds_of_mem_inSource {s : Text} {b : OwnerBlock} (h : b ∈ inSource s) :
    b.start < b.stop ∧ b.stop ≤ s.length := by
  obtain ⟨f, i, o, hspan⟩ := exists_of_mem_inSource h
  rw [hspan.start]
  rcases hspan.stop with ⟨q, hq, hstop⟩ | ⟨-, hstop⟩
  · have hne : f.closing ≠ [] := by cases f <;> decide
    have hle := (begins_of_closes hq.closes.2).length_le hne
    have hbehind := hq.behind
    rw [hstop]
    omega
  · obtain ⟨hbegins, hmarker, hlength⟩ := begins_of_opener? hspan.opens.2
    obtain ⟨c, t, ht, -⟩ := hmarker.tight.front
    have hle := hbegins.length_le (ht ▸ List.cons_ne_nil c t)
    have hpos : 0 < (o.text f).length := by rw [ht]; exact Nat.zero_lt_succ _
    rw [hstop]
    omega

/-! ## Main statement -/

/-- A line opens a block in one way at most; the blocks of a source are those that its lines list,
the assigned ones first; and each of them lies in the source and is not empty. -/
theorem inSource_eq_iff_lists (s : Text) :
    (∀ l ∈ Text.lines s, ∀ (f f' : Form) (ind ind' name name' rest rest' : Text),
      Opens f l ind name rest → Opens f' l ind' name' rest' →
        f = f' ∧ ind = ind' ∧ name = name' ∧ rest = rest') ∧
    (∀ bs : List OwnerBlock, inSource s = bs ↔
      ∃ assigned extended, Lists .assigned (placed 0 (Text.lines s)) assigned ∧
        Lists .extended (placed 0 (Text.lines s)) extended ∧ bs = assigned ++ extended) ∧
    ∀ b ∈ inSource s, b.start < b.stop ∧ b.stop ≤ s.length := by
  refine ⟨fun l _ f f' ind ind' name name' rest rest' h h' => h.unique h', fun bs => ?_,
    fun b hb => bounds_of_mem_inSource hb⟩
  rw [inSource_eq_among_placed]
  constructor
  · rintro rfl
    exact ⟨_, _, lists_iff.mpr rfl, lists_iff.mpr rfl, rfl⟩
  · rintro ⟨assigned, extended, hassigned, hextended, rfl⟩
    rw [lists_iff.mp hassigned, lists_iff.mp hextended]

/-- A source with a block inside another. -/
def nestedBlocks : Text :=
  "  Outer.prototype = \x7b\n    Inner.prototype = \x7b\n    \x7d;\n  \x7d;\n".toList

/-- Each of the two blocks stops at the marker that is indented as far as its own. -/
theorem inSource_eq_iff_lists_nested :
    ∃ assigned extended, Lists .assigned (placed 0 (Text.lines nestedBlocks)) assigned ∧
      Lists .extended (placed 0 (Text.lines nestedBlocks)) extended ∧
      [⟨"Outer".toList, 0, 57⟩, ⟨"Inner".toList, 22, 52⟩] = assigned ++ extended :=
  ((inSource_eq_iff_lists nestedBlocks).2.1 _).mp (by decide +kernel)

end OwnerBlock

end Docblock
