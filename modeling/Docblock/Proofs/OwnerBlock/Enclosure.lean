/-
# Docblock.Proofs.OwnerBlock.Enclosure — which blocks hold the place of a run of code.

A block holds a place by numbers alone: the place is not before the opening marker, and not behind
the closing one.  Code that a comment carries cannot stand at any of the places that lie in a
marker, though.  In front of it, back to the last comment or to the beginning of the source, there
is nothing but blanks, so the code would have to begin with that marker; and then no shape of a
member reads it.  What is left lies between two markers that fit each other
(`CodeAt.encloses_of_holds`), and a block that never closes holds no member at all.
-/
import Docblock.Proofs.OwnerBlock.Marker
import Mathlib.Data.List.Find

namespace Docblock

namespace OwnerBlock

/-! ## Between the markers -/

/-- The block `b` opens on the line that begins at `i` with the marker `o`, which ends with a brace,
and stops behind the first closing marker that fits, on the line that begins at `q`; the place `p`
lies behind the one and before the line of the other. -/
structure Between (s : Text) (f : Form) (i : Nat) (o : Opener) (q : Nat) (b : OwnerBlock)
    (p : Nat) : Prop where
  opens : OpensAt s f i o
  name : b.name = o.name
  start : b.start = i
  brace : s[i + o.length - 1]? = some '\x7b'
  closer : FirstCloser s f o.indent i q
  stop : b.stop = (q + o.indent + f.closing.length : Nat)
  behind : i + o.length < p
  ahead : p < q

/-- The block `b` of a source encloses the place `p`. -/
def Encloses (s : Text) (b : OwnerBlock) (p : Nat) : Prop :=
  ∃ f i o q, Between s f i o q b p

/-- The block without its last place. -/
def halfOpen (b : OwnerBlock) : OwnerBlock := { b with stop := b.stop - 1 }

theorem holds_iff {b : OwnerBlock} {x : Int} : b.holds x = true ↔ b.start ≤ x ∧ x ≤ b.stop := by
  rw [holds, Bool.and_eq_true, decide_eq_true_eq, decide_eq_true_eq]

/-- Without its last place a block holds the places from its start up to its stop. -/
theorem holds_halfOpen_iff {b : OwnerBlock} {x : Int} :
    b.halfOpen.holds x = true ↔ b.start ≤ x ∧ x < b.stop := by
  rw [holds_iff]
  show b.start ≤ x ∧ x ≤ b.stop - 1 ↔ _
  omega

theorem Encloses.holds_halfOpen {s : Text} {b : OwnerBlock} {p : Nat} (h : Encloses s b p) :
    b.halfOpen.holds p = true := by
  obtain ⟨f, i, o, q, h⟩ := h
  have hi := h.behind
  have hq := h.ahead
  rw [holds_halfOpen_iff, h.start, h.stop]
  omega

theorem holds_of_holds_halfOpen {b : OwnerBlock} {x : Int} (h : b.halfOpen.holds x = true) :
    b.holds x = true := by
  rw [holds_halfOpen_iff] at h
  rw [holds_iff]
  omega

theorem OpensAt.brace {s : Text} {f : Form} {i : Nat} {o : Opener} (h : OpensAt s f i o) :
    s[i + o.length - 1]? = some '\x7b' := by
  obtain ⟨⟨ind, r, hs, hl, -⟩, -, hlen⟩ := begins_of_opener? h.2
  obtain ⟨m, hm⟩ := Opener.exists_text_eq f o
  have hk : i + o.length - 1 = i + (ind ++ m).length := by
    rw [hlen, hm]
    simp only [List.length_append, List.length_singleton]
    omega
  have hs' : s.drop i = (ind ++ m) ++ '\x7b' :: r := by
    rw [hs, hm]
    simp only [List.append_assoc, List.singleton_append]
  rw [hk, ← List.getElem?_drop, hs', List.getElem?_append_right (Nat.le_refl _), Nat.sub_self]
  rfl

/-! ## The places of code -/

/-- At the place `p` of a source the text `d` of a run of code begins, with a character that is not
blank.  In front of it only blanks stand behind the last slash; behind it there is another slash, or
the source ends. -/
structure CodeAt (s : Text) (p : Nat) (d : Text) : Prop where
  front : ∃ x t, d = x :: t ∧ isBlank x = false
  ahead : ∀ v, v <:+ s.take p → '/' ∉ v → Text.blank v = true
  behind : ∃ r, s.drop p = d ++ r ∧ (r = [] ∨ ['/'] <+: r)

namespace CodeAt

variable {s d m : Text} {p : Nat}

/-- A marker where the code begins lies in the code, since what follows it begins with a slash. -/
theorem prefix_of_marker (h : CodeAt s p d) (hm : '/' ∉ m) (hp : m <+: s.drop p) : m <+: d := by
  obtain ⟨r, hs, hr⟩ := h.behind
  rw [hs] at hp
  rcases List.prefix_or_prefix_of_prefix hp (List.prefix_append d r) with hmd | ⟨e, rfl⟩
  · exact hmd
  · have he := (List.prefix_append_right_inj d).mp hp
    rcases hr with rfl | hr
    · rw [List.prefix_nil.mp he, List.append_nil]
    · cases e with
      | nil => rw [List.append_nil]
      | cons y e =>
        obtain ⟨u, rfl⟩ := hr
        obtain ⟨rfl, -⟩ := List.cons_prefix_cons.mp he
        exact absurd (by simp) hm

/-- Code that does not begin with a marker begins before the line of the marker, or behind it. -/
theorem not_in_marker (h : CodeAt s p d) (hm : IsMarker m) {indent q : Nat}
    (hq : Begins m indent (s.drop q)) (hd : ¬ m <+: d) : p < q ∨ q + indent + m.length < p := by
  by_contra hc
  obtain ⟨hqp, hpq⟩ : q ≤ p ∧ p ≤ q + indent + m.length := by omega
  obtain ⟨ind, r, hs, rfl, hind⟩ := hq
  have hskip : s.drop (q + ind.length) = m ++ r := by
    rw [← List.drop_drop, hs, List.drop_left]
  rcases Nat.lt_trichotomy p (q + ind.length) with hlt | rfl | hgt
  · -- in the indentation there are only blanks
    obtain ⟨x, t, hx, hb⟩ := h.front
    obtain ⟨r', hr', -⟩ := h.behind
    have hp : s.drop p = ind.drop (p - q) ++ (m ++ r) := by
      rw [← List.drop_append_of_le_length (by omega), ← hs, List.drop_drop]
      congr 1
      omega
    cases hk : ind.drop (p - q) with
    | nil =>
      have := List.drop_eq_nil_iff.mp hk
      omega
    | cons y k =>
      rw [hr', hx, hk] at hp
      obtain rfl := (List.cons.inj hp).1
      have : x ∈ ind := List.mem_of_mem_drop (hk ▸ List.mem_cons_self)
      exact Bool.false_ne_true (hb.symm.trans (isBlank_of_isIndent (hind x this)))
  · exact hd (h.prefix_of_marker hm.not_slash (hskip ▸ List.prefix_append m r))
  · -- inside the marker its first character stands in front of the code
    obtain ⟨k, rfl⟩ := Nat.exists_eq_add_of_lt hgt
    have htake : s.take (q + ind.length + k + 1) = s.take (q + ind.length) ++ m.take (k + 1) := by
      rw [Nat.add_assoc, List.take_add, hskip, List.take_append_of_le_length (by omega)]
    obtain ⟨x, t, rfl, hb⟩ := hm.tight.front
    have hslash : '/' ∉ (x :: t).take (k + 1) := fun hi => hm.not_slash (List.mem_of_mem_take hi)
    have hblank := h.ahead _ (htake ▸ List.suffix_append _ _) hslash
    have := Text.blank_iff.mp hblank x List.mem_cons_self
    exact Bool.false_ne_true (hb.symm.trans this)

/-- A block of the source that holds the place of code encloses it, unless the code begins with a
marker. -/
theorem encloses_of_holds (h : CodeAt s p d) (hd : ∀ m, IsMarker m → ¬ m <+: d) {b : OwnerBlock}
    (hb : b ∈ inSource s) (hh : b.holds p = true) : Encloses s b p := by
  obtain ⟨f, i, o, hspan⟩ := exists_of_mem_inSource hb
  obtain ⟨hstart, hstop⟩ := holds_iff.mp hh
  rw [hspan.start] at hstart
  obtain ⟨hbegins, hmarker, hlen⟩ := begins_of_opener? hspan.opens.2
  have hbehind : i + o.length < p := by
    have := h.not_in_marker hmarker hbegins (hd _ hmarker)
    omega
  rcases hspan.stop with ⟨q, hq, hstop'⟩ | ⟨-, hstop'⟩
  · have hclosing := isMarker_closing f
    have := h.not_in_marker hclosing (begins_of_closes hq.closes.2) (hd _ hclosing)
    refine ⟨f, i, o, q, hspan.opens, hspan.name, hspan.start, hspan.opens.brace, hq, hstop', ?_, ?_⟩
    · exact hbehind
    · omega
  · -- without a closing marker the block ends where its opening marker does
    omega

/-- Whether the last place of a block counts makes no difference at the place of code that does not
begin with a marker. -/
theorem ownerAt_halfOpen (h : CodeAt s p d) (hd : ∀ m, IsMarker m → ¬ m <+: d) :
    ownerAt p ((inSource s).map halfOpen) = ownerAt p (inSource s) := by
  have hholds : ∀ b ∈ inSource s, ((·.holds p) ∘ halfOpen) b = b.holds p := by
    intro b hb
    rw [Bool.eq_iff_iff]
    constructor
    · exact holds_of_holds_halfOpen
    · exact fun hh => (h.encloses_of_holds hd hb hh).holds_halfOpen
  rw [ownerAt, ownerAt, List.find?_map, List.find?_congr hholds, Option.map_map]
  rfl

end CodeAt

end OwnerBlock

end Docblock
