/-
# Docblock.Proofs.Text.Cutting — where a cut falls.

A cut falls at the first place where its marker begins.  That place is not the first one where the
marker stands inside the part in front: a marker may begin in that part and run on into the cut.
`Clear m a` says that no marker `m` begins inside `a`, however the text goes on behind a marker that
follows it, and with this notion a cut is determined from both sides: `cut_eq_some_iff` and
`cut_eq_none_iff`.  Pieces and replacements are chains of cuts, and two different characters make
the marker of most cuts in this library, so that case has its own short conditions.
-/
import Docblock.Text.Basic
import Mathlib.Data.List.Infix

namespace Docblock.Text

/-! ## Beginnings -/

theorem after?_eq_some_iff {head s r : Text} : after? head s = some r ↔ s = head ++ r := by
  rw [after?, List.isPrefixOf?_eq_some_iff_append_eq, eq_comm]

@[simp] theorem after?_append (head r : Text) : after? head (head ++ r) = some r :=
  after?_eq_some_iff.mpr rfl

theorem after?_eq_none_iff {head s : Text} : after? head s = none ↔ ¬ head <+: s := by
  rw [Option.eq_none_iff_forall_ne_some]
  constructor
  · rintro h ⟨r, rfl⟩
    exact h r (after?_append head r)
  · intro h r hr
    exact h ⟨r, (eq_append_of_after? hr).symm⟩

theorem before?_eq_some_iff {tail s r : Text} : before? tail s = some r ↔ s = r ++ tail := by
  rw [before?, List.isSuffixOf?_eq_some_iff_append_eq, eq_comm]

@[simp] theorem beginsWith_iff {head s : Text} : beginsWith head s = true ↔ head <+: s :=
  List.isPrefixOf_iff_prefix

/-- A text that stands in front of two others with a character that it does not hold between them
stands in front of the first. -/
theorem prefix_append_cons_iff {m t r : Text} {y : Char} (h : y ∉ m) :
    m <+: t ++ y :: r ↔ m <+: t := by
  constructor
  · intro hp
    rcases List.prefix_or_prefix_of_prefix hp (List.prefix_append t (y :: r)) with hm | ⟨e, rfl⟩
    · exact hm
    · -- had it any character behind the first text, the character between would be in it
      cases e with
      | nil => rw [List.append_nil]
      | cons z e =>
        obtain ⟨rfl, -⟩ := List.cons_prefix_cons.mp ((List.prefix_append_right_inj t).mp hp)
        exact absurd (by simp) h
  · exact fun hp => hp.trans (List.prefix_append t _)

/-- Two texts that are cut at the last place of a character are cut at one place. -/
theorem append_cons_inj {y : Char} {a a' r r' : Text} (hr : y ∉ r) (hr' : y ∉ r')
    (h : a ++ y :: r = a' ++ y :: r') : a = a' ∧ r = r' := by
  rcases List.append_eq_append_iff.mp h with ⟨c, rfl, hc⟩ | ⟨c, rfl, hc⟩
  · cases c with
    | nil => exact ⟨(List.append_nil a).symm, (List.cons.inj hc).2⟩
    | cons x c =>
      obtain ⟨-, rfl⟩ := List.cons.inj hc
      exact absurd (by simp) hr
  · cases c with
    | nil => exact ⟨List.append_nil a', (List.cons.inj hc).2.symm⟩
    | cons x c =>
      obtain ⟨-, rfl⟩ := List.cons.inj hc
      exact absurd (by simp) hr'

theorem after?_append_cons {m : Text} {y : Char} (h : y ∉ m) (t r : Text) :
    after? m (t ++ y :: r) = (after? m t).map (· ++ y :: r) := by
  cases ht : after? m t with
  | none =>
    rw [after?_eq_none_iff, ← prefix_append_cons_iff h (r := r),
      ← after?_eq_none_iff] at ht
    exact ht
  | some e =>
    rw [after?_eq_some_iff.mp ht, List.append_assoc, after?_append]
    rfl

/-! ## Cuts -/

/-- No marker `m` begins inside `a` when a marker follows it. -/
def Clear (m a : Text) : Prop := ¬ m <:+: a ++ m.dropLast

theorem Clear.of_cons {m a : Text} {x : Char} (h : Clear m (x :: a)) : Clear m a :=
  fun hi => h (List.infix_cons hi)

theorem Clear.not_infix {m a : Text} (h : Clear m a) : ¬ m <:+: a :=
  fun hi => h (List.infix_append_of_infix_left hi)

/-- A marker that began at the front of `a` would end before the marker behind `a` does. -/
theorem Clear.not_prefix {m a : Text} {x : Char} (h : Clear m (x :: a)) (r : Text) :
    ¬ m <+: x :: a ++ (m ++ r) := by
  intro hp
  have hm : m ≠ [] := by
    rintro rfl
    exact h List.nil_infix
  have hq : x :: a ++ m.dropLast <+: x :: a ++ (m ++ r) :=
    (List.prefix_append_right_inj _).mpr ((List.dropLast_prefix m).trans (List.prefix_append m r))
  have hl : m.length ≤ (x :: a ++ m.dropLast).length := by
    have := List.length_pos_iff.mpr hm
    simp only [List.length_append, List.length_cons, List.length_dropLast]
    omega
  exact h (List.prefix_of_prefix_length_le hp hq hl).isInfix

/-- A text clear of the marker stays in front of the first one. -/
theorem cut_append {m a : Text} (h : Clear m a) (hm : m ≠ []) (r : Text) :
    cut m (a ++ (m ++ r)) = (a, some r) := by
  induction a with
  | nil =>
    obtain ⟨x, m', rfl⟩ := List.exists_cons_of_ne_nil hm
    have hr : after? (x :: m') (x :: (m' ++ r)) = some r := after?_append (x :: m') r
    simp only [List.nil_append, List.cons_append, cut, hr]
  | cons x a ih =>
    have hn : after? m (x :: (a ++ (m ++ r))) = none := after?_eq_none_iff.mpr (h.not_prefix r)
    simp only [List.cons_append, cut, hn, ih h.of_cons, push]

/-- A text without the marker is not cut. -/
theorem cut_of_not_infix {m s : Text} (h : ¬ m <:+: s) : cut m s = (s, none) := by
  induction s with
  | nil =>
    have hm : m ≠ [] := by
      rintro rfl
      exact h List.nil_infix
    simp [cut, hm]
  | cons x s ih =>
    have hn : after? m (x :: s) = none := after?_eq_none_iff.mpr fun hp => h hp.isInfix
    simp only [cut, hn, ih fun hi => h (List.infix_cons hi), push]

/-- Every cut puts its text together again, and nothing in front of it could have been cut off
earlier. -/
theorem cut_spec {m : Text} (hm : m ≠ []) (s : Text) :
    (¬ m <:+: s ∧ cut m s = (s, none)) ∨
      ∃ a r, Clear m a ∧ s = a ++ (m ++ r) ∧ cut m s = (a, some r) := by
  by_cases hs : m <:+: s
  · right
    induction s with
    | nil => exact absurd (List.infix_nil.mp hs) hm
    | cons x s ih =>
      by_cases hp : m <+: x :: s
      · obtain ⟨r, hr⟩ := hp
        have hc : Clear m [] := by
          intro hi
          have := hi.length_le
          have := List.length_pos_iff.mpr hm
          simp only [List.nil_append, List.length_dropLast] at *
          omega
        exact ⟨[], r, hc, hr.symm, hr ▸ cut_append hc hm r⟩
      · obtain ⟨a, r, hc, rfl, -⟩ := ih ((List.infix_cons_iff.mp hs).resolve_left hp)
        have hc' : Clear m (x :: a) := by
          intro hi
          rcases List.infix_cons_iff.mp hi with hq | hi
          · -- the marker would begin inside `x :: a` and end before the one behind it does
            have hd : m.dropLast <+: m ++ r :=
              (List.dropLast_prefix m).trans (List.prefix_append m r)
            exact hp (hq.trans ((List.prefix_append_right_inj (x :: a)).mpr hd))
          · exact hc hi
        exact ⟨x :: a, r, hc', rfl, cut_append hc' hm r⟩
  · exact Or.inl ⟨hs, cut_of_not_infix hs⟩

theorem cut_eq_none_iff {m s a : Text} (hm : m ≠ []) :
    cut m s = (a, none) ↔ a = s ∧ ¬ m <:+: s := by
  constructor
  · intro h
    rcases cut_spec hm s with ⟨hn, hc⟩ | ⟨b, r, -, -, hc⟩
    · rw [hc] at h
      exact ⟨(Prod.mk.inj h).1.symm, hn⟩
    · rw [hc] at h
      exact absurd (Prod.mk.inj h).2 (Option.some_ne_none r)
  · rintro ⟨rfl, hn⟩
    exact cut_of_not_infix hn

theorem cut_eq_some_iff {m s a r : Text} (hm : m ≠ []) :
    cut m s = (a, some r) ↔ s = a ++ (m ++ r) ∧ Clear m a := by
  constructor
  · intro h
    rcases cut_spec hm s with ⟨-, hc⟩ | ⟨b, r', hb, hs, hc⟩
    · rw [hc] at h
      exact absurd (Prod.mk.inj h).2.symm (Option.some_ne_none r)
    · rw [hc] at h
      obtain ⟨rfl, hr⟩ := Prod.mk.inj h
      obtain rfl := Option.some.inj hr
      exact ⟨hs, hb⟩
  · rintro ⟨rfl, ha⟩
    exact cut_append ha hm r

/-! ## Pieces and replacements -/

theorem has_iff {m s : Text} (hm : m ≠ []) : has m s = true ↔ m <:+: s := by
  rcases cut_spec hm s with ⟨hn, hc⟩ | ⟨a, r, -, hs, hc⟩
  · simp [has, hc, hn]
  · rw [has, hc]
    exact iff_of_true rfl ⟨a, r, by rw [hs, List.append_assoc]⟩

theorem pieces_of_not_infix {m s : Text} (h : ¬ m <:+: s) : pieces m s = [s] := by
  rw [pieces, cut_of_not_infix h]

theorem pieces_append {m a : Text} (h : Clear m a) (hm : m ≠ []) (r : Text) :
    pieces m (a ++ (m ++ r)) = a :: pieces m r := by
  have hl : r.length < (a ++ (m ++ r)).length := by
    have := List.length_pos_iff.mpr hm
    simp only [List.length_append]
    omega
  rw [pieces, cut_append h hm]
  simp only [hl, if_true]

theorem join_cons_cons (glue p q : Text) (qs : List Text) :
    join glue (p :: q :: qs) = p ++ (glue ++ join glue (q :: qs)) := by
  rw [join, join, List.intercalate_cons_cons, List.append_assoc]

/-- Joined pieces are found again when the marker begins in none of them. -/
theorem pieces_join {m : Text} (hm : m ≠ []) {p : Text} {ps : List Text}
    (h : ∀ q ∈ p :: ps, Clear m q) : pieces m (join m (p :: ps)) = p :: ps := by
  induction ps generalizing p with
  | nil =>
    have hp : ¬ m <:+: p := Clear.not_infix (h p List.mem_cons_self)
    rw [join, List.intercalate_singleton, pieces_of_not_infix hp]
  | cons q qs ih =>
    rw [join_cons_cons, pieces_append (h p List.mem_cons_self) hm]
    rw [ih fun x hx => h x (List.mem_cons_of_mem p hx)]

theorem replace_of_not_infix {old s : Text} (new : Text) (h : ¬ old <:+: s) :
    replace old new s = s := by
  rw [replace, pieces_of_not_infix h, join, List.intercalate_singleton]

/-! ## Markers of two characters -/

/-- Two characters stand in a text of two parts when they stand in one part, or meet at the
seam. -/
theorem pair_infix_append {x y : Char} {a b : Text} :
    [x, y] <:+: a ++ b ↔ [x, y] <:+: a ∨ [x, y] <:+: b ∨ ([x] <:+ a ∧ [y] <+: b) := by
  rw [List.infix_append_iff_ne_nil]
  refine or_congr_right (or_congr_right ?_)
  constructor
  · rintro ⟨l₁, l₂, h₁, h₂, he, hs, hp⟩
    obtain ⟨u, l₁, rfl⟩ := List.exists_cons_of_ne_nil h₁
    obtain ⟨v, l₂, rfl⟩ := List.exists_cons_of_ne_nil h₂
    cases l₁ with
    | nil => simp_all
    | cons w l₁ => simp at he
  · rintro ⟨hs, hp⟩
    exact ⟨[x], [y], List.cons_ne_nil x [], List.cons_ne_nil y [], rfl, hs, hp⟩

/-- A marker of two different characters that follows a text cannot begin inside it. -/
theorem clear_pair_iff {x y : Char} (hxy : x ≠ y) {a : Text} :
    Clear [x, y] a ↔ ¬ [x, y] <:+: a := by
  have hs : ¬ [x, y] <:+: [x] := fun h => absurd h.length_le (by simp)
  have hy : ¬ [y] <+: [x] := fun ⟨r, h⟩ => hxy (List.cons.inj h).1.symm
  show ¬ [x, y] <:+: a ++ [x] ↔ _
  rw [pair_infix_append]
  simp [hs, hy]

theorem cut_pair {x y : Char} (hxy : x ≠ y) {a : Text} (h : ¬ [x, y] <:+: a) (r : Text) :
    cut [x, y] (a ++ x :: y :: r) = (a, some r) :=
  cut_append ((clear_pair_iff hxy).mpr h) (List.cons_ne_nil x [y]) r

end Docblock.Text
