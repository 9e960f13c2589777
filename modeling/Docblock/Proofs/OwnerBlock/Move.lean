/-
# Docblock.Proofs.OwnerBlock.Move — owners when the text around them moves.

Two sources that make the same marks at different places have the same blocks at different places.
When the places are related by `R`, a member finds the same owner in both sources as soon as its own
places are in the same order to any two related ones (`ownerAt_inSource_eq`).  Two such relations
are used: all of a source moves behind a header, and what stands behind a replaced part of it moves
by the difference in length, while marks within that part may lie anywhere in it.
-/
import Docblock.Proofs.OwnerBlock.Mark
import Mathlib.Data.List.Forall2

namespace Docblock

namespace OwnerBlock

variable {R : Nat → Nat → Prop}

/-! ## Moved marks and blocks -/

/-- The same mark at two places, at both ends of which the places are related. -/
structure MovedMark (R : Nat → Nat → Prop) (f : Form) (m m' : Nat × Mark) : Prop where
  mark : m.2 = m'.2
  front : R m.1 m'.1
  back : R (m.1 + m.2.length f) (m'.1 + m'.2.length f)

/-- Two blocks of one owner that start and stop at related places. -/
structure MovedBlock (R : Nat → Nat → Prop) (b b' : OwnerBlock) : Prop where
  name : b.name = b'.name
  start : ∃ q q' : Nat, R q q' ∧ b.start = q ∧ b'.start = q'
  stop : ∃ q q' : Nat, R q q' ∧ b.stop = q ∧ b'.stop = q'

theorem markedStop?_moved {f : Form} {ms ms' : List (Nat × Mark)}
    (h : List.Forall₂ (MovedMark R f) ms ms') (indent : Nat) :
    (markedStop? f indent ms = none ∧ markedStop? f indent ms' = none) ∨
      ∃ q q', R q q' ∧ markedStop? f indent ms = some q ∧ markedStop? f indent ms' = some q' := by
  induction h with
  | nil => exact Or.inl ⟨rfl, rfl⟩
  | @cons m m' ms ms' hm _ ih =>
    by_cases hc : m.2 = .closes indent
    · have hc' : m'.2 = .closes indent := hm.mark ▸ hc
      right
      refine ⟨_, _, hm.back, ?_, ?_⟩
      · rw [markedStop?, List.find?_cons_of_pos (by simpa using hc)]
        rfl
      · rw [markedStop?, List.find?_cons_of_pos (by simpa using hc')]
        rfl
    · have hc' : ¬ m'.2 = .closes indent := hm.mark ▸ hc
      unfold markedStop? at ih ⊢
      rwa [List.find?_cons_of_neg (by simpa using hc), List.find?_cons_of_neg (by simpa using hc')]

theorem forall₂_ofMarks {f : Form} {ms ms' : List (Nat × Mark)}
    (h : List.Forall₂ (MovedMark R f) ms ms') :
    List.Forall₂ (MovedBlock R) (ofMarks f ms) (ofMarks f ms') := by
  induction h with
  | nil => exact List.Forall₂.nil
  | @cons m m' ms ms' hm hms ih =>
    obtain ⟨n, k⟩ := m
    obtain ⟨n', k'⟩ := m'
    obtain rfl : k = k' := hm.mark
    cases k with
    | closes indent => exact ih
    | opens o =>
      refine List.Forall₂.cons ⟨rfl, ⟨n, n', hm.front, rfl, rfl⟩, ?_⟩ ih
      -- a block that nothing closes stops behind its own opening marker
      rcases markedStop?_moved hms o.indent with ⟨hn, hn'⟩ | ⟨q, q', hq, hs, hs'⟩
      · exact ⟨_, _, hm.back, by rw [hn]; rfl, by rw [hn']; rfl⟩
      · exact ⟨q, q', hq, by rw [hs]; rfl, by rw [hs']; rfl⟩

/-! ## Owners -/

/-- The places `p` and `p'` are in the same order to any two related places. -/
def Aligned (R : Nat → Nat → Prop) (p p' : Nat) : Prop :=
  ∀ q q', R q q' → (q ≤ p ↔ q' ≤ p') ∧ (p ≤ q ↔ p' ≤ q')

theorem MovedBlock.holds_eq {b b' : OwnerBlock} (h : MovedBlock R b b') {p p' : Nat}
    (hp : Aligned R p p') : b.holds p = b'.holds p' := by
  obtain ⟨q, q', hq, hs, hs'⟩ := h.start
  obtain ⟨r, r', hr, ht, ht'⟩ := h.stop
  have hfront := (hp q q' hq).1
  have hback := (hp r r' hr).2
  rw [Bool.eq_iff_iff, holds, holds, Bool.and_eq_true, Bool.and_eq_true, hs, hs', ht, ht']
  simp only [decide_eq_true_eq, Int.ofNat_le, hfront, hback]

theorem ownerAt_eq_of_forall₂ {bs bs' : List OwnerBlock} (h : List.Forall₂ (MovedBlock R) bs bs')
    {p p' : Nat} (hp : Aligned R p p') : ownerAt p bs = ownerAt p' bs' := by
  induction h with
  | nil => rfl
  | @cons b b' bs bs' hb _ ih =>
    rw [ownerAt, ownerAt] at ih ⊢
    cases hh : b.holds p with
    | true =>
      have hh' : b'.holds p' = true := hb.holds_eq hp ▸ hh
      rw [List.find?_cons_of_pos (by exact hh), List.find?_cons_of_pos (by exact hh')]
      exact congrArg some hb.name
    | false =>
      have hh' : b'.holds p' = false := hb.holds_eq hp ▸ hh
      rwa [List.find?_cons_of_neg (by simp [hh]), List.find?_cons_of_neg (by simp [hh'])]

/-- A member finds the same owner among the same marks at other places. -/
theorem ownerAt_inSource_eq {s s' : Text}
    (h : ∀ f, List.Forall₂ (MovedMark R f) (marks f s) (marks f s')) {p p' : Nat}
    (hp : Aligned R p p') : ownerAt p (inSource s) = ownerAt p' (inSource s') := by
  have hb : List.Forall₂ (MovedBlock R) (inSource s) (inSource s') := by
    rw [inSource_eq, inSource_eq]
    exact List.rel_append (forall₂_ofMarks (h .assigned)) (forall₂_ofMarks (h .extended))
  exact ownerAt_eq_of_forall₂ hb hp

/-! ## Behind a header -/

theorem forall₂_map_add {f : Form} (ms : List (Nat × Mark)) (n n' : Nat)
    (hR : ∀ m ∈ ms, ∀ e, m.1 ≤ e → R (e + n) (e + n')) :
    List.Forall₂ (MovedMark R f) (ms.map fun m => (m.1 + n, m.2))
      (ms.map fun m => (m.1 + n', m.2)) := by
  rw [List.forall₂_map_left_iff, List.forall₂_map_right_iff, List.forall₂_same]
  intro m hm
  refine ⟨rfl, hR m hm m.1 (Nat.le_refl _), ?_⟩
  have := hR m hm (m.1 + m.2.length f) (Nat.le_add_right _ _)
  rwa [Nat.add_right_comm m.1 n, Nat.add_right_comm m.1 n']

/-- Marks that open nothing make no blocks, and what they close is behind them already. -/
theorem ofMarks_append_of_not_opens {f : Form} {ms : List (Nat × Mark)}
    (h : ofMarks f ms = []) (ms' : List (Nat × Mark)) : ofMarks f (ms ++ ms') = ofMarks f ms' := by
  induction ms with
  | nil => rfl
  | cons m ms ih =>
    obtain ⟨n, k⟩ := m
    cases k with
    | closes indent => exact ih h
    | opens o => exact absurd h (List.cons_ne_nil _ _)

theorem ofMarks_eq_nil_of_append {f : Form} {ms ms' : List (Nat × Mark)}
    (h : ofMarks f (ms ++ ms') = []) : ofMarks f ms = [] := by
  induction ms with
  | nil => rfl
  | cons m ms ih =>
    obtain ⟨n, k⟩ := m
    cases k with
    | closes indent => exact ih h
    | opens o => exact absurd h (List.cons_ne_nil _ _)

/-- Behind a header of whole lines without blocks a member has the owner it had without it. -/
theorem ownerAt_inSource_append {h : Text} (hn : h = [] ∨ ['\n'] <:+ h) (hb : inSource h = [])
    (s : Text) (p : Nat) :
    ownerAt (p + h.length : Nat) (inSource (h ++ s)) = ownerAt p (inSource s) := by
  rcases hn with rfl | ⟨u, rfl⟩
  · rfl
  · have hlen : (u ++ ['\n']).length = u.length + 1 := List.length_append
    have hopens : ∀ f, ofMarks f (marks f u) = [] := by
      rw [inSource_eq, marks_append_newline, marks_append_newline, List.append_eq_nil_iff] at hb
      rintro (_ | _)
      · exact ofMarks_eq_nil_of_append hb.1
      · exact ofMarks_eq_nil_of_append hb.2
    have hblocks : List.Forall₂ (MovedBlock fun q q' => q' = q + (u.length + 1)) (inSource s)
        (inSource (u ++ ['\n'] ++ s)) := by
      have hmoved : ∀ f, List.Forall₂ (MovedBlock fun q q' => q' = q + (u.length + 1))
          (ofMarks f (marks f s)) (ofMarks f (marks f (u ++ '\n' :: s))) := by
        intro f
        rw [marks_append_newline, ofMarks_append_of_not_opens (hopens f)]
        have := forall₂_ofMarks (R := fun q q' => q' = q + (u.length + 1))
          (forall₂_map_add (f := f) (marks f s) 0 (u.length + 1) fun m _ e _ => rfl)
        simpa using this
      rw [List.append_assoc, List.singleton_append, inSource_eq, inSource_eq]
      exact List.rel_append (hmoved .assigned) (hmoved .extended)
    rw [hlen]
    refine (ownerAt_eq_of_forall₂ hblocks ?_).symm
    rintro q q' rfl
    omega

/-! ## Around a replaced part -/

/-- The places `q` and `q'` correspond when the part of a text from `a` to `b` is replaced by one
from `a` to `b'`: in front of the part nothing moves, behind it all places move alike, and strictly
within it any two places correspond. -/
def Across (a b b' q q' : Nat) : Prop :=
  (q ≤ a ∧ q' = q) ∨ (a < q ∧ q < b ∧ a < q' ∧ q' < b') ∨ ∃ e, q = b + e ∧ q' = b' + e

theorem aligned_across_of_le {a b b' p : Nat} (hb : a < b) (hb' : a < b') (hp : p ≤ a) :
    Aligned (Across a b b') p p := by
  rintro q q' (h | h | ⟨e, h⟩) <;> omega

theorem aligned_across_add {a b b' : Nat} (hb : a < b) (hb' : a < b') (e : Nat) :
    Aligned (Across a b b') (b + e) (b' + e) := by
  rintro q q' (h | h | ⟨e, h⟩) <;> omega

/-- The marks on the lines that begin within a text, behind its first line feed. -/
def innerMarks (f : Form) (s : Text) : List Mark :=
  (marked f (laterLines 0 s)).map Prod.snd

theorem forall₂_of_map_snd_eq {P : Nat × Mark → Nat × Mark → Prop} {ms ms' : List (Nat × Mark)}
    (h : ms.map Prod.snd = ms'.map Prod.snd)
    (hP : ∀ m ∈ ms, ∀ m' ∈ ms', m.2 = m'.2 → P m m') : List.Forall₂ P ms ms' := by
  induction ms generalizing ms' with
  | nil =>
    rw [List.map_eq_nil_iff.mp h.symm]
    exact List.Forall₂.nil
  | cons m ms ih =>
    cases ms' with
    | nil => exact absurd h (List.cons_ne_nil _ _)
    | cons m' ms' =>
      obtain ⟨hm, hms⟩ := List.cons.inj h
      refine List.Forall₂.cons (hP m List.mem_cons_self m' List.mem_cons_self hm) (ih hms ?_)
      intro k hk k' hk'
      exact hP k (List.mem_cons_of_mem m hk) k' (List.mem_cons_of_mem m' hk')

/-- The marks in front of a replaced part stay where they are. -/
theorem forall₂_marks_front (f : Form) (u : Text) (b b' : Nat) :
    List.Forall₂ (MovedMark (Across u.length b b') f) (marks f u) (marks f u) := by
  rw [List.forall₂_same]
  intro m hm
  have := place_of_mem_marks hm
  exact ⟨rfl, Or.inl ⟨by omega, rfl⟩, Or.inl ⟨this, rfl⟩⟩

/-- The marks behind a replaced part move with what stands behind it. -/
theorem forall₂_marks_back (f : Form) (v : Text) (a b b' : Nat) :
    List.Forall₂ (MovedMark (Across a b b') f) (marked f (laterLines b v))
      (marked f (laterLines b' v)) := by
  have hshift : ∀ n, marked f (laterLines n v) =
      (marked f (laterLines 0 v)).map fun m => (m.1 + n, m.2) := by
    intro n
    rw [← marked_map_add, ← laterLines_add, Nat.zero_add]
  rw [hshift b, hshift b']
  exact forall₂_map_add _ _ _ fun m _ e _ =>
    Or.inr (Or.inr ⟨e, Nat.add_comm e b, Nat.add_comm e b'⟩)

/-- The text of a line comment does not matter to the marks around it. -/
theorem forall₂_marks_lineComment {t t' : Text} (ht : '\n' ∉ t) (ht' : '\n' ∉ t') (f : Form)
    (u v : Text) :
    List.Forall₂
      (MovedMark (Across u.length (u.length + (t.length + 2)) (u.length + (t'.length + 2))) f)
      (marks f (u ++ '/' :: '/' :: (t ++ v))) (marks f (u ++ '/' :: '/' :: (t' ++ v))) := by
  rw [marks_lineComment ht, marks_lineComment ht']
  exact List.rel_append (forall₂_marks_front f u _ _) (forall₂_marks_back f v _ _ _)

/-- The body of a block comment does not matter to the marks around it when the marks of its own
lines stay the same. -/
theorem forall₂_marks_blockComment {body body' : Text} {f : Form}
    (h : innerMarks f body = innerMarks f body') (u v : Text) :
    List.Forall₂
      (MovedMark
        (Across u.length (u.length + (body.length + 4)) (u.length + (body'.length + 4))) f)
      (marks f (u ++ '/' :: '*' :: (body ++ '*' :: '/' :: v)))
      (marks f (u ++ '/' :: '*' :: (body' ++ '*' :: '/' :: v))) := by
  have hsnd : ∀ n s, (marked f (laterLines n s)).map Prod.snd = innerMarks f s := by
    intro n s
    rw [← Nat.zero_add n, laterLines_add, marked_map_add, List.map_map]
    rfl
  have hinner : List.Forall₂
      (MovedMark
        (Across u.length (u.length + (body.length + 4)) (u.length + (body'.length + 4))) f)
      (marked f (laterLines (u.length + 2) body)) (marked f (laterLines (u.length + 2) body')) := by
    -- where in the bodies the marks stand does not matter: no member is between them
    refine forall₂_of_map_snd_eq (by rw [hsnd, hsnd, h]) fun m hm m' hm' he => ?_
    have hp := place_of_mem_laterLines hm
    have hp' := place_of_mem_laterLines hm'
    refine ⟨he, Or.inr (Or.inl ?_), Or.inr (Or.inl ?_)⟩ <;> omega
  rw [marks_blockComment, marks_blockComment]
  exact List.rel_append (forall₂_marks_front f u _ _)
    (List.rel_append hinner (forall₂_marks_back f v _ _ _))

end OwnerBlock

end Docblock
