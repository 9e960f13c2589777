/-
# Docblock.Proofs.OwnerBlock.Nesting — blocks of one form and one indentation.

The end of a block is searched for each block anew, among all the lines behind its opening marker.
Two blocks of the same form that are indented equally far look for the same closing markers, though.
So either the first one is over before the second one opens, or the two searches end at the same
marker (`apart_or_together`): such blocks never overlap in part.  The owner of a place is therefore
told by the order of the blocks alone, and the earliest of such blocks stands in front of the
others.  A block of another indentation or of the other form may stand in front of them all.  Main
statement: `indented_apart_or_together`.
-/
import Docblock.Proofs.OwnerBlock.Lines
import Mathlib.Data.List.Nodup

namespace Docblock

namespace OwnerBlock

/-! ## Blocks of one indentation -/

/-- How far the opening marker of a block is indented. -/
def indentOf? (f : Form) (s : Text) (b : OwnerBlock) : Option Nat :=
  (opener? f (s.drop b.start.toNat)).map (·.indent)

/-- The blocks of the form `f` whose opening markers are indented by `indent`, in order. -/
def indented (f : Form) (indent : Nat) (s : Text) : List OwnerBlock :=
  (among f (lineStarts s)).filter fun b => indentOf? f s b = some indent

/-- On one of the lines from the one where `a` opens up to the one where `b` does, a closing marker
of the form `f` stands that is indented by `indent`. -/
def ClosedBetween (s : Text) (f : Form) (indent : Nat) (a b : OwnerBlock) : Prop :=
  ∃ q : Nat, a.start ≤ q ∧ q < b.start ∧ ClosesAt s f indent q

section

variable {s : Text} {f : Form} {indent : Nat} {a b : OwnerBlock}

theorem Spans.indentOf? {i : Nat} {o : Opener} (h : Spans s f i o b) :
    indentOf? f s b = some o.indent := by
  rw [OwnerBlock.indentOf?, h.start, Int.toNat_natCast, h.opens.2]
  rfl

theorem exists_spans_of_mem_indented (h : b ∈ indented f indent s) :
    ∃ i o, Spans s f i o b ∧ o.indent = indent := by
  obtain ⟨hb, hindent⟩ := List.mem_filter.mp h
  obtain ⟨i, o, hspan⟩ := exists_spans_of_mem_among hb
  refine ⟨i, o, hspan, ?_⟩
  rw [decide_eq_true_eq, hspan.indentOf?] at hindent
  exact Option.some.inj hindent

theorem mem_inSource_of_mem_indented (h : b ∈ indented f indent s) : b ∈ inSource s :=
  mem_inSource_iff.mpr ⟨f, (List.mem_filter.mp h).1⟩

/-! ## Where markers end -/

/-- A marker ends on its line. -/
theorem Begins.end_lt {m : Text} {i j : Nat} (h : Begins m indent (s.drop i)) (hm : '\n' ∉ m)
    (hj : BeginsLine s j) (hij : i < j) : i + (indent + m.length) < j := by
  obtain rfl | ⟨u, t, rfl, rfl⟩ := hj
  · omega
  by_contra hlt
  obtain ⟨ind, r, hs, rfl, hind⟩ := h
  -- the line feed in front of the later line would stand in the marker
  have hplace : (ind ++ m)[u.length - i]? = some '\n' := by
    have hle : u.length - i < (ind ++ m).length := by
      rw [List.length_append]
      omega
    have hdrop : (ind ++ (m ++ r))[u.length - i]? = some '\n' := by
      rw [← hs, List.getElem?_drop, Nat.add_sub_cancel' (by omega),
        List.getElem?_append_right (Nat.le_refl _), Nat.sub_self]
      rfl
    rw [← List.append_assoc, List.getElem?_append_left hle] at hdrop
    exact hdrop
  rcases List.mem_append.mp (List.mem_of_getElem? hplace) with hmem | hmem
  · exact absurd (hind _ hmem) (by decide)
  · exact hm hmem

theorem OpensAt.end_lt {i j : Nat} {o : Opener} (h : OpensAt s f i o) (hj : BeginsLine s j)
    (hij : i < j) : i + o.length < j := by
  obtain ⟨hbegins, hmarker, hlength⟩ := begins_of_opener? h.2
  rw [hlength]
  exact hbegins.end_lt hmarker.not_newline hj hij

theorem ClosesAt.end_lt {i j : Nat} (h : ClosesAt s f indent i) (hj : BeginsLine s j)
    (hij : i < j) : i + (indent + f.closing.length) < j :=
  (begins_of_closes h.2).end_lt (isMarker_closing f).not_newline hj hij

/-- A line on which a block opens closes none. -/
theorem OpensAt.not_closesAt {i : Nat} {o : Opener} (h : OpensAt s f i o) :
    ¬ ClosesAt s f indent i := by
  intro hc
  have hbegins := hc.2
  rw [closes, Bool.and_eq_true, Text.beginsWith_iff] at hbegins
  exact not_closing_of_opener? h.2 hbegins.2

theorem FirstCloser.unique {i q q' : Nat} (h : FirstCloser s f indent i q)
    (h' : FirstCloser s f indent i q') : q = q' := by
  rcases Nat.lt_trichotomy q q' with hlt | heq | hgt
  · exact absurd h.closes (h'.first q h.behind hlt)
  · exact heq
  · exact absurd h'.closes (h.first q' h'.behind hgt)

/-! ## Two blocks -/

/-- Of two blocks that look for the same closing markers, the earlier one is over before the later
one opens, or it was not closed by then and both are closed by the same marker. -/
theorem apart_or_together (ha : a ∈ indented f indent s) (hb : b ∈ indented f indent s)
    (hab : a.start < b.start) :
    a.stop < b.start ∨ a.stop = b.stop ∧ ¬ ClosedBetween s f indent a b := by
  obtain ⟨i, o, hspan, rfl⟩ := exists_spans_of_mem_indented ha
  obtain ⟨j, o', hspan', hindent⟩ := exists_spans_of_mem_indented hb
  have hij : i < j := by
    rw [hspan.start, hspan'.start] at hab
    omega
  rw [hspan'.start]
  rcases hspan.stop with ⟨q, hq, hstop⟩ | ⟨-, hstop⟩
  · rcases Nat.lt_or_ge q j with hqj | hjq
    · left
      have := hq.closes.end_lt hspan'.opens.1 hqj
      rw [hstop]
      omega
    · -- the marker that closes `a` stands behind the line where `b` opens
      right
      have hne : q ≠ j := by
        rintro rfl
        exact hspan'.opens.not_closesAt hq.closes
      have hfirst : FirstCloser s f o.indent j q :=
        { behind := by omega
          closes := hq.closes
          first := fun q' hj hq' => hq.first q' (by omega) hq' }
      refine ⟨?_, ?_⟩
      · rcases hspan'.stop with ⟨q', hq', hstop'⟩ | ⟨hnone, -⟩
        · rw [hindent] at hq' hstop'
          rw [hstop, hstop', hfirst.unique hq']
        · rw [hindent] at hnone
          exact absurd hq.closes (hnone q hfirst.behind)
      · rintro ⟨q', hiq', hq'j, hcloses⟩
        rw [hspan.start] at hiq'
        rw [hspan'.start] at hq'j
        have hne' : q' ≠ i := by
          rintro rfl
          exact hspan.opens.not_closesAt hcloses
        exact hq.first q' (by omega) (by omega) hcloses
  · left
    have := hspan.opens.end_lt hspan'.opens.1 hij
    rw [hstop]
    omega

/-! ## The order of blocks -/

/-- The blocks of one form are listed in the order of the lines on which they open. -/
theorem pairwise_among {ls : List (Nat × Text)} (h : ls.Pairwise fun l m => l.1 < m.1) :
    (among f ls).Pairwise fun a b => a.start < b.start := by
  induction ls with
  | nil => exact .nil
  | cons l ls ih =>
    obtain ⟨n, t⟩ := l
    obtain ⟨hn, hls⟩ := List.pairwise_cons.mp h
    rw [among]
    split
    · exact ih hls
    · refine .cons ?_ (ih hls)
      intro b hb
      obtain ⟨pre, i, t', later, o, rfl, -, rfl⟩ := mem_among_iff.mp hb
      have hlt : n < i := hn (i, t') (by simp)
      exact Int.ofNat_lt.mpr hlt

theorem pairwise_indented (f : Form) (indent : Nat) (s : Text) :
    (indented f indent s).Pairwise fun a b => a.start < b.start :=
  (pairwise_among (pairwise_lineStarts s)).filter _

theorem eq_of_start_eq (ha : a ∈ indented f indent s) (hb : b ∈ indented f indent s)
    (h : a.start = b.start) : a = b := by
  have hnodup : ((indented f indent s).map (·.start)).Nodup :=
    List.pairwise_map.mpr ((pairwise_indented f indent s).imp Int.ne_of_lt)
  exact List.inj_on_of_nodup_map hnodup ha hb h

/-- A block is of one form only, since a line opens a block in one way at most. -/
theorem form_unique {f' : Form} (h : b ∈ among f (lineStarts s))
    (h' : b ∈ among f' (lineStarts s)) : f = f' := by
  obtain ⟨i, o, hspan⟩ := exists_spans_of_mem_among h
  obtain ⟨j, o', hspan'⟩ := exists_spans_of_mem_among h'
  obtain rfl : i = j := Int.ofNat_inj.mp (hspan.start.symm.trans hspan'.start)
  obtain ⟨ind, name, rest, hopens, -⟩ := opener?_eq_some_iff.mp hspan.opens.2
  obtain ⟨ind', name', rest', hopens', -⟩ := opener?_eq_some_iff.mp hspan'.opens.2
  exact (hopens.unique hopens').1

/-- In the list of all blocks, too, those of one form stand in the order of their lines. -/
theorem pairwise_inSource (s : Text) : (inSource s).Pairwise fun a b =>
    ∀ f, a ∈ among f (lineStarts s) → b ∈ among f (lineStarts s) → a.start < b.start := by
  have hpart : ∀ g, (among g (lineStarts s)).Pairwise fun a b =>
      ∀ f, a ∈ among f (lineStarts s) → b ∈ among f (lineStarts s) → a.start < b.start :=
    fun g => (pairwise_among (pairwise_lineStarts s)).imp fun h _ _ _ => h
  rw [inSource, List.pairwise_append]
  refine ⟨hpart .assigned, hpart .extended, ?_⟩
  intro a ha b hb f ha' hb'
  exact Form.noConfusion ((form_unique ha ha').trans (form_unique hb' hb))

/-! ## Who owns a place -/

/-- Of the blocks of one form and one indentation that hold a place, `a` opens first. -/
structure IsEarliest (s : Text) (f : Form) (indent : Nat) (p : Int) (a : OwnerBlock) : Prop where
  mem : a ∈ indented f indent s
  holds : a.holds p = true
  first : ∀ b ∈ indented f indent s, b.holds p = true → a.start ≤ b.start

/-- The block that gives the owner of a place stands in front of all others that hold the place. -/
theorem exists_ownerAt {p : Int} {bs : List OwnerBlock} (hb : b ∈ bs) (hp : b.holds p = true) :
    ∃ c ∈ bs, c.holds p = true ∧ ownerAt p bs = some c.name ∧
      ∀ a ∈ bs, a.holds p = true → c = a ∨ [c, a].Sublist bs := by
  cases hfind : bs.find? (·.holds p) with
  | none => exact absurd hp (List.find?_eq_none.mp hfind b hb)
  | some c =>
    obtain ⟨hc, pre, post, rfl, hpre⟩ := List.find?_eq_some_iff_append.mp hfind
    refine ⟨c, List.mem_of_find?_eq_some hfind, hc, by rw [ownerAt, hfind]; rfl, fun a ha hpa => ?_⟩
    rcases List.mem_append.mp ha with ha | ha
    · exact absurd (hpre a ha) (by simp [hpa])
    · rcases List.mem_cons.mp ha with rfl | ha
      · exact .inl rfl
      · have hsub : [c, a].Sublist (c :: post) := (List.singleton_sublist.mpr ha).cons_cons c
        exact .inr (hsub.trans (List.sublist_append_right pre (c :: post)))

/-- Among such blocks alone the earliest one gives the owner. -/
theorem exists_isEarliest {p : Int} (hb : b ∈ indented f indent s) (hp : b.holds p = true) :
    ∃ a, IsEarliest s f indent p a ∧ ownerAt p (indented f indent s) = some a.name := by
  obtain ⟨a, ha, hpa, howner, hfront⟩ := exists_ownerAt hb hp
  refine ⟨a, ⟨ha, hpa, fun c hc hpc => ?_⟩, howner⟩
  rcases hfront c hc hpc with rfl | hsub
  · exact Int.le_refl a.start
  · have hlt := (pairwise_indented f indent s).sublist hsub
    exact Int.le_of_lt (by simpa using hlt)

/-- Among all blocks it is the earliest one, or a block in front of it that is not one of them. -/
theorem IsEarliest.exists_ownerAt {p : Int} (h : IsEarliest s f indent p a) :
    ∃ c ∈ inSource s, c.holds p = true ∧ ownerAt p (inSource s) = some c.name ∧
      (c = a ∨ c ∉ indented f indent s ∧ [c, a].Sublist (inSource s)) := by
  obtain ⟨c, hc, hpc, howner, hfront⟩ :=
    OwnerBlock.exists_ownerAt (mem_inSource_of_mem_indented h.mem) h.holds
  refine ⟨c, hc, hpc, howner, ?_⟩
  rcases hfront a (mem_inSource_of_mem_indented h.mem) h.holds with heq | hsub
  · exact .inl heq
  · refine .inr ⟨fun hmem => ?_, hsub⟩
    have hlt : ∀ g, c ∈ among g (lineStarts s) → a ∈ among g (lineStarts s) →
        c.start < a.start := by
      simpa using (pairwise_inSource s).sublist hsub
    have hca := hlt f (List.mem_filter.mp hmem).1 (List.mem_filter.mp h.mem).1
    have hac := h.first c hmem hpc
    omega

/-! ## Blocks that are closed in time -/

/-- When each block is closed before the next one opens, it is closed before any later one opens. -/
theorem closedBetween_of_lt
    (hclosed : ∀ a b, [a, b] <:+: indented f indent s → ClosedBetween s f indent a b)
    (ha : a ∈ indented f indent s) (hb : b ∈ indented f indent s) (hab : a.start < b.start) :
    ClosedBetween s f indent a b := by
  obtain ⟨pre, post, hl⟩ := List.append_of_mem ha
  have hsorted := pairwise_indented f indent s
  rw [hl, List.pairwise_append, List.pairwise_cons] at hsorted
  obtain ⟨-, ⟨-, hpost⟩, hpre⟩ := hsorted
  rw [hl] at hb
  rcases List.mem_append.mp hb with hb | hb
  · have := hpre b hb a List.mem_cons_self
    omega
  · rcases List.mem_cons.mp hb with rfl | hb
    · omega
    · obtain ⟨c, post, rfl⟩ := List.exists_cons_of_ne_nil (List.ne_nil_of_mem hb)
      -- the next block opens on the line of `b` or before it
      have hcb : c.start ≤ b.start := by
        rcases List.mem_cons.mp hb with rfl | hb
        · exact Int.le_refl _
        · exact Int.le_of_lt ((List.pairwise_cons.mp hpost).1 b hb)
      obtain ⟨q, haq, hqc, hq⟩ := hclosed a c ⟨pre, post, by rw [hl]; simp⟩
      exact ⟨q, haq, by omega, hq⟩

theorem eq_of_holds
    (hclosed : ∀ a b, [a, b] <:+: indented f indent s → ClosedBetween s f indent a b) {p : Int}
    (ha : a ∈ indented f indent s) (hb : b ∈ indented f indent s) (hpa : a.holds p = true)
    (hpb : b.holds p = true) : a = b := by
  have hapart : ∀ {a b : OwnerBlock}, a ∈ indented f indent s → b ∈ indented f indent s →
      a.start < b.start → a.holds p = true → b.holds p = true → False := by
    intro a b ha hb hab hpa hpb
    have hbetween := closedBetween_of_lt hclosed ha hb hab
    rw [holds, Bool.and_eq_true, decide_eq_true_eq, decide_eq_true_eq] at hpa hpb
    rcases apart_or_together ha hb hab with hlt | ⟨-, hnot⟩
    · omega
    · exact hnot hbetween
  rcases Int.lt_trichotomy a.start b.start with hlt | heq | hgt
  · exact (hapart ha hb hlt hpa hpb).elim
  · exact eq_of_start_eq ha hb heq
  · exact (hapart hb ha hgt hpb hpa).elim

end

/-! ## Main statement -/

/-- Of two blocks of one form and one indentation the earlier one is over before the later one
opens, or both stop at the same place because the earlier one was not closed by then.  At a place
that such blocks hold, the earliest of them gives the owner, unless a block in front of it in the
list of all blocks, which is not one of them, holds the place as well.  And when each of them is
closed before the next one opens, a place lies in one of them at most. -/
theorem indented_apart_or_together (s : Text) (f : Form) (indent : Nat) :
    (∀ a ∈ indented f indent s, ∀ b ∈ indented f indent s, a.start < b.start →
      a.stop < b.start ∨ a.stop = b.stop ∧ ¬ ClosedBetween s f indent a b) ∧
    (∀ p : Int, (∃ b ∈ indented f indent s, b.holds p = true) →
      ∃ a, IsEarliest s f indent p a ∧ ownerAt p (indented f indent s) = some a.name ∧
        ∃ c ∈ inSource s, c.holds p = true ∧ ownerAt p (inSource s) = some c.name ∧
          (c = a ∨ c ∉ indented f indent s ∧ [c, a].Sublist (inSource s))) ∧
    ((∀ a b, [a, b] <:+: indented f indent s → ClosedBetween s f indent a b) →
      ∀ p : Int, ∀ a ∈ indented f indent s, ∀ b ∈ indented f indent s,
        a.holds p = true → b.holds p = true → a = b) := by
  refine ⟨fun a ha b hb hab => apart_or_together ha hb hab, fun p hp => ?_,
    fun hclosed p a ha b hb hpa hpb => eq_of_holds hclosed ha hb hpa hpb⟩
  obtain ⟨b, hb, hpb⟩ := hp
  obtain ⟨a, ha, howner⟩ := exists_isEarliest hb hpb
  exact ⟨a, ha, howner, ha.exists_ownerAt⟩

/-- Two blocks, the first of which is closed before the second one opens. -/
def separateBlocks : Text :=
  "First.prototype = \x7b\n\x7d;\nSecond.prototype = \x7b\n\x7d;\n".toList

/-- The marker that closes the first block stands on the line that begins at 20. -/
theorem indented_apart_or_together_separate :
    (∀ a b, [a, b] <:+: indented .assigned 0 separateBlocks →
      ClosedBetween separateBlocks .assigned 0 a b) ∧
    ∀ p : Int, ∀ a ∈ indented .assigned 0 separateBlocks,
      ∀ b ∈ indented .assigned 0 separateBlocks, a.holds p = true → b.holds p = true → a = b := by
  have hblocks : indented .assigned 0 separateBlocks =
      [⟨"First".toList, 0, 22⟩, ⟨"Second".toList, 23, 46⟩] := by decide +kernel
  have hclosed : ∀ a b, [a, b] <:+: indented .assigned 0 separateBlocks →
      ClosedBetween separateBlocks .assigned 0 a b := by
    intro a b hab
    rw [hblocks] at hab
    have heq := hab.eq_of_length rfl
    simp only [List.cons.injEq, and_true] at heq
    obtain ⟨rfl, rfl⟩ := heq
    have hline : BeginsLine separateBlocks 20 :=
      .inr ⟨"First.prototype = \x7b".toList, "\x7d;\nSecond.prototype = \x7b\n\x7d;\n".toList,
        by decide, by decide⟩
    exact ⟨20, by decide, by decide, hline, by decide⟩
  exact ⟨hclosed, (indented_apart_or_together separateBlocks .assigned 0).2.2 hclosed⟩

/-- Two blocks of one indentation that the same marker closes, inside a third one. -/
def jointBlocks : Text :=
  ("Outer.prototype = \x7b\n  First.prototype = \x7b\n  Second.prototype = \x7b\n" ++
    "  \x7d;\n\x7d;\n").toList

/-- At a place that several blocks of one form and one indentation hold, the earliest of them need
not give the owner: a block around them stands in front of it. -/
theorem not_ownerAt_earliest :
    ¬ ∀ (s : Text) (f : Form) (indent : Nat) (p : Int) (a b : OwnerBlock),
      IsEarliest s f indent p a → b ∈ indented f indent s → b.holds p = true → a ≠ b →
        ownerAt p (inSource s) = some a.name := by
  intro h
  have hearliest : IsEarliest jointBlocks .assigned 2 66 ⟨"First".toList, 20, 69⟩ :=
    { mem := by decide +kernel
      holds := by decide
      first := by decide +kernel }
  have hname := h jointBlocks .assigned 2 66 ⟨"First".toList, 20, 69⟩ ⟨"Second".toList, 42, 69⟩
    hearliest (by decide +kernel) (by decide) (by decide)
  have howner : ownerAt 66 (inSource jointBlocks) = some "Outer".toList := by decide +kernel
  rw [howner] at hname
  exact absurd hname (by decide)

end OwnerBlock

end Docblock
