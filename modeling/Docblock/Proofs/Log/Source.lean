/-
# Docblock.Proofs.Log.Source — names that lie below the root.

Of two dots side by side only the one behind divides a name.  In front of a character that is no dot
nothing changes, whatever follows: above a name is what is above its front, and longer names with
the same front (`mem_above_of_fronted`, `Fronted.of_mem_above`).  So a part lies below the root when
its name does not begin with a dot, and its records go up to the root over all known names on the
way (`reachesRoot_of_head?_ne_dot`).  The records of a part whose name begins with one dot never get
there (`reachesRoot_dotted`).
-/
import Docblock.Log.Source
import Mathlib.Data.List.Induction

namespace Docblock.LogSource

open LogRecord (root sourceName)

/-! ## Above a name -/

theorem aboveReversed_of_ne {c : Char} (hc : c ≠ '.') (r : Text) :
    aboveReversed (c :: r) = aboveReversed r := by
  cases r with
  | nil => rfl
  | cons d r => rw [aboveReversed, if_neg (by simpa using hc)]

theorem aboveReversed_dot (d : Char) (r : Text) :
    aboveReversed ('.' :: d :: r) = (d :: r).reverse :: aboveReversed r := by
  rw [aboveReversed, if_pos (beq_self_eq_true _)]

variable {c : Char} {known : List Text} {name p front part : Text}

/-- Names are taken two characters at a time behind a dot; this passes over no dot right in front of
a character that is none, and so comes to the front as if nothing stood behind it. -/
theorem aboveReversed_append (hc : c ≠ '.') (u r : Text) :
    (∀ p ∈ aboveReversed r, p ∈ aboveReversed (u ++ c :: r)) ∧
      ∀ p ∈ aboveReversed (u ++ c :: r), p ∈ aboveReversed r ∨ ∃ v, p = (v ++ c :: r).reverse := by
  induction u using List.twoStepInduction with
  | nil =>
    rw [List.nil_append, aboveReversed_of_ne hc]
    exact ⟨fun p hp => hp, fun p hp => .inl hp⟩
  | singleton d =>
    rw [List.singleton_append]
    by_cases hd : d = '.'
    · rw [hd, aboveReversed_dot]
      refine ⟨fun p hp => List.mem_cons_of_mem _ hp, fun p hp => ?_⟩
      rcases List.mem_cons.mp hp with rfl | hp
      · exact .inr ⟨[], rfl⟩
      · exact .inl hp
    · rw [aboveReversed_of_ne hd, aboveReversed_of_ne hc]
      exact ⟨fun p hp => hp, fun p hp => .inl hp⟩
  | cons_cons d e u ih ih' =>
    rw [List.cons_append, List.cons_append]
    by_cases hd : d = '.'
    · rw [hd, aboveReversed_dot]
      refine ⟨fun p hp => List.mem_cons_of_mem _ (ih.1 p hp), fun p hp => ?_⟩
      rcases List.mem_cons.mp hp with rfl | hp
      · exact .inr ⟨e :: u, rfl⟩
      · exact ih.2 p hp
    · rw [aboveReversed_of_ne hd]
      exact ih' e

/-- A name that goes on behind a front with a character that is no dot. -/
def Fronted (front name : Text) : Prop := ∃ c r, c ≠ '.' ∧ name = front ++ c :: r

theorem mem_above_of_fronted (h : Fronted front name) (hp : p ∈ above front) : p ∈ above name := by
  obtain ⟨c, r, hc, rfl⟩ := h
  rw [above, List.reverse_append, List.reverse_cons, List.append_assoc, List.singleton_append]
  exact (aboveReversed_append hc r.reverse front.reverse).1 p hp

theorem Fronted.of_mem_above (h : Fronted front name) (hp : p ∈ above name) :
    p ∈ above front ∨ Fronted front p := by
  obtain ⟨c, r, hc, rfl⟩ := h
  rw [above, List.reverse_append, List.reverse_cons, List.append_assoc,
    List.singleton_append] at hp
  refine ((aboveReversed_append hc r.reverse front.reverse).2 p hp).imp_right ?_
  rintro ⟨v, rfl⟩
  refine ⟨c, v.reverse, hc, ?_⟩
  rw [List.reverse_append, List.reverse_cons, List.reverse_reverse, List.append_assoc,
    List.singleton_append]

/-- What does not begin with a dot is nothing, or a name goes on with it behind any front. -/
theorem eq_nil_or_fronted {r : Text} (front : Text) (h : r.head? ≠ some '.') :
    r = [] ∨ Fronted front (front ++ r) := by
  cases r with
  | nil => exact .inl rfl
  | cons c r => exact .inr ⟨c, r, fun hc => h (congrArg some hc), rfl⟩

theorem of_parent? (h : parent? known name = some p) : p ∈ above name ∧ p ∈ known :=
  ⟨List.mem_of_find?_eq_some h, List.contains_iff_mem.mp (List.find?_some h)⟩

/-! ## Below the root -/

/-- The root and the names of its parts, as far as these do not begin with a dot. -/
def Rooted (name : Text) : Prop := name = root ∨ Fronted (root ++ ['.']) name

theorem rooted_sourceName (h : part.head? ≠ some '.') : Rooted (sourceName part) := by
  cases part with
  | nil => exact .inl rfl
  | cons c r => exact .inr ((eq_nil_or_fronted _ h).resolve_left (List.cons_ne_nil c r))

theorem above_root_dot : above (root ++ ['.']) = [root] := by decide

theorem root_mem_above (h : Rooted name) (hne : name ≠ root) : root ∈ above name := by
  apply mem_above_of_fronted (h.resolve_left hne)
  rw [above_root_dot]
  exact List.mem_singleton_self root

theorem rooted_of_mem_above (h : Rooted name) (hne : name ≠ root) (hp : p ∈ above name) :
    Rooted p := by
  rcases (h.resolve_left hne).of_mem_above hp with hp | hp
  · rw [above_root_dot] at hp
    exact .inl (List.mem_singleton.mp hp)
  · exact .inr hp

theorem reachesRoot_of_rooted (hroot : root ∈ known) (h : Rooted name) :
    reachesRoot known name = true := by
  fun_induction reachesRoot known name with
  | case1 => rfl
  | case2 name hne hparent =>
    have hnone := List.find?_eq_none.mp hparent root (root_mem_above h hne)
    exact absurd (List.contains_iff_mem.mpr hroot) hnone
  | case3 name hne p hparent ih => exact ih (rooted_of_mem_above h hne (of_parent? hparent).1)

/-- The records of a part go up to the root, whatever names between them are known. -/
theorem reachesRoot_of_head?_ne_dot (hroot : root ∈ known) (h : part.head? ≠ some '.') :
    reachesRoot known (sourceName part) = true :=
  reachesRoot_of_rooted hroot (rooted_sourceName h)

/-! ## Behind a second dot -/

/-- The names of parts that begin with one dot. -/
def Dotted (name : Text) : Prop :=
  name = root ++ "..".toList ∨ Fronted (root ++ "..".toList) name

theorem dotted_sourceName {r : Text} (h : r.head? ≠ some '.') :
    Dotted (sourceName ('.' :: r)) := by
  rcases eq_nil_or_fronted (root ++ "..".toList) h with rfl | hr
  · exact .inl rfl
  · exact .inr hr

theorem above_root_dots : above (root ++ "..".toList) = [root ++ ['.']] := by decide

/-- Above such a name there are only such names, and the root with one dot behind it. -/
theorem dotted_of_mem_above (h : Dotted name) (hp : p ∈ above name) :
    p = root ++ ['.'] ∨ Dotted p := by
  obtain rfl | h := h
  · rw [above_root_dots] at hp
    exact .inl (List.mem_singleton.mp hp)
  · rcases h.of_mem_above hp with hp | hp
    · rw [above_root_dots] at hp
      exact .inl (List.mem_singleton.mp hp)
    · exact .inr (.inr hp)

theorem sourceName_ne_root_dot (part : Text) : sourceName part ≠ root ++ ['.'] := by
  cases part with
  | nil => decide
  | cons c r =>
    intro h
    have := congrArg List.length h
    simp [sourceName, root] at this

/-- Behind a dot at the front of its name a part is out of reach of the root. -/
theorem reachesRoot_dotted (hknown : root ++ ['.'] ∉ known) (h : Dotted name) :
    reachesRoot known name = false := by
  fun_induction reachesRoot known name with
  | case1 =>
    obtain h | ⟨c, r, -, h⟩ := h
    · exact absurd h (by decide)
    · exact absurd (congrArg List.length h) (by simp [root])
  | case2 => rfl
  | case3 name hne p hparent ih =>
    obtain ⟨hp, hpk⟩ := of_parent? hparent
    refine ih ((dotted_of_mem_above h hp).resolve_left ?_)
    rintro rfl
    exact hknown hpk

end Docblock.LogSource
