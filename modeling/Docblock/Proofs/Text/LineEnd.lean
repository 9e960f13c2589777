/-
# Docblock.Proofs.Text.LineEnd — unifying the ends of lines.

Line ends are unified by two replacements, one behind the other.  Read from the front of a text the
two are one step for each character: a carriage return becomes a line feed and takes a line feed
behind it along, and every other character stays.  A text can therefore be unified in two parts,
unless the seam falls between a carriage return and its line feed (`unifyNewlines_append`).
-/
import Docblock.Scan
import Docblock.Proofs.Text.Lines

namespace Docblock

namespace Text

/-! ## Replacements from the front -/

theorem pieces_ne_nil (m s : Text) : pieces m s ≠ [] := by
  rw [pieces]
  split
  · exact List.cons_ne_nil _ _
  · split
    · exact List.cons_ne_nil _ _
    · exact List.cons_ne_nil _ _

theorem join_nil_cons {glue : Text} {ps : List Text} (h : ps ≠ []) :
    join glue ([] :: ps) = glue ++ join glue ps := by
  obtain ⟨p, ps, rfl⟩ := List.exists_cons_of_ne_nil h
  rw [join_cons, join_cons, List.flatMap_cons, List.nil_append, List.append_assoc]

/-- A character at which the marker does not begin stays with the first piece of the rest. -/
theorem exists_pieces_cons {m r : Text} {c : Char} (h : ¬ m <+: c :: r) :
    ∃ p ps, pieces m r = p :: ps ∧ pieces m (c :: r) = (c :: p) :: ps := by
  have hm : m ≠ [] := by
    rintro rfl
    exact h List.nil_prefix
  rcases cut_spec hm (c :: r) with ⟨hn, -⟩ | ⟨a, t, ha, hs, -⟩
  · have hr : ¬ m <:+: r := fun hi => hn (List.infix_cons hi)
    exact ⟨r, [], pieces_of_not_infix hr, pieces_of_not_infix hn⟩
  · cases a with
    | nil => exact absurd ⟨t, hs.symm⟩ h
    | cons x a =>
      obtain ⟨rfl, rfl⟩ := List.cons.inj hs
      exact ⟨a, pieces m t, pieces_append ha.of_cons hm t, pieces_append ha hm t⟩

theorem replace_cons {old r : Text} {c : Char} (new : Text) (h : ¬ old <+: c :: r) :
    replace old new (c :: r) = c :: replace old new r := by
  obtain ⟨p, ps, hr, hc⟩ := exists_pieces_cons h
  rw [replace, replace, hr, hc, join_cons, join_cons, List.cons_append]

theorem replace_append {old : Text} (new : Text) (h : old ≠ []) (r : Text) :
    replace old new (old ++ r) = new ++ replace old new r := by
  have hclear : Clear old [] := by
    intro hi
    have hle := hi.length_le
    have := List.length_pos_iff.mpr h
    rw [List.nil_append, List.length_dropLast] at hle
    omega
  have hp : pieces old (old ++ r) = [] :: pieces old r := pieces_append hclear h r
  rw [replace, hp, join_nil_cons (pieces_ne_nil old r), replace]

/-- A single character is replaced wherever it stands. -/
theorem replace_singleton (x : Char) (new s : Text) :
    replace [x] new s = s.flatMap fun c => if c = x then new else [c] := by
  induction s with
  | nil => exact replace_of_not_infix new fun h => List.cons_ne_nil x [] (List.infix_nil.mp h)
  | cons c s ih =>
    rw [List.flatMap_cons, ← ih]
    by_cases hc : c = x
    · subst hc
      rw [if_pos rfl]
      exact replace_append new (List.cons_ne_nil c []) s
    · rw [if_neg hc]
      apply replace_cons
      intro hp
      exact hc (List.cons_prefix_cons.mp hp).1.symm

end Text

/-! ## One step for each character -/

@[simp] theorem unifyNewlines_nil : unifyNewlines [] = [] := by
  have hn : ∀ (x : Char) (m : Text), ¬ x :: m <:+: [] := fun x m h =>
    List.cons_ne_nil x m (List.infix_nil.mp h)
  rw [unifyNewlines, Text.replace_of_not_infix _ (hn _ _), Text.replace_of_not_infix _ (hn _ _)]

theorem unifyNewlines_cons {c : Char} (h : c ≠ '\r') (r : Text) :
    unifyNewlines (c :: r) = c :: unifyNewlines r := by
  have hp : ∀ m t : Text, ¬ '\r' :: m <+: c :: t := by
    intro m t hi
    exact h (List.cons_prefix_cons.mp hi).1.symm
  rw [unifyNewlines, Text.replace_cons _ (hp _ _), Text.replace_cons _ (hp _ _), unifyNewlines]

theorem unifyNewlines_return_newline (r : Text) :
    unifyNewlines ('\r' :: '\n' :: r) = '\n' :: unifyNewlines r := by
  have hpair : Text.replace ['\r', '\n'] ['\n'] ('\r' :: '\n' :: r) =
      '\n' :: Text.replace ['\r', '\n'] ['\n'] r :=
    Text.replace_append ['\n'] (List.cons_ne_nil '\r' ['\n']) r
  have hnew : ∀ t : Text, ¬ ['\r'] <+: '\n' :: t := by
    intro t hi
    exact absurd (List.cons_prefix_cons.mp hi).1 (by decide)
  rw [unifyNewlines, hpair, Text.replace_cons _ (hnew _), unifyNewlines]

theorem unifyNewlines_return {r : Text} (h : ¬ ['\n'] <+: r) :
    unifyNewlines ('\r' :: r) = '\n' :: unifyNewlines r := by
  have hpair : ¬ ['\r', '\n'] <+: '\r' :: r := fun hi => h (List.cons_prefix_cons.mp hi).2
  have hone : ∀ t : Text,
      Text.replace ['\r'] ['\n'] ('\r' :: t) = '\n' :: Text.replace ['\r'] ['\n'] t :=
    Text.replace_append ['\n'] (List.cons_ne_nil '\r' [])
  rw [unifyNewlines, Text.replace_cons _ hpair, hone, unifyNewlines]

theorem unifyNewlines_of_not_mem {s : Text} (h : '\r' ∉ s) : unifyNewlines s = s := by
  have hpair : ¬ ['\r', '\n'] <:+: s := fun hi => h (hi.subset List.mem_cons_self)
  have hone : ¬ ['\r'] <:+: s := fun hi => h (hi.subset List.mem_cons_self)
  rw [unifyNewlines, Text.replace_of_not_infix _ hpair, Text.replace_of_not_infix _ hone]

/-- Induction along a text, one line end at a time. -/
theorem lineEnd_induction {P : Text → Prop} (nil : P [])
    (pair : ∀ s, P s → P ('\r' :: '\n' :: s))
    (lone : ∀ s, ¬ ['\n'] <+: s → P s → P ('\r' :: s))
    (other : ∀ c s, c ≠ '\r' → P s → P (c :: s)) (s : Text) : P s :=
  match s with
  | [] => nil
  | c :: s => by
    by_cases hc : c = '\r'
    · subst hc
      by_cases hn : ['\n'] <+: s
      · obtain ⟨s, rfl⟩ := hn
        exact pair s (lineEnd_induction nil pair lone other s)
      · exact lone s hn (lineEnd_induction nil pair lone other s)
    · exact other c s hc (lineEnd_induction nil pair lone other s)
termination_by s.length

theorem unifyNewlines_eq_nil_iff {s : Text} : unifyNewlines s = [] ↔ s = [] := by
  constructor
  · induction s using lineEnd_induction with
    | nil => exact fun _ => rfl
    | pair s => exact fun h => absurd (unifyNewlines_return_newline s ▸ h) (List.cons_ne_nil _ _)
    | lone s hn => exact fun h => absurd (unifyNewlines_return hn ▸ h) (List.cons_ne_nil _ _)
    | other c s hc => exact fun h => absurd (unifyNewlines_cons hc s ▸ h) (List.cons_ne_nil _ _)
  · rintro rfl
    exact unifyNewlines_nil

theorem return_not_mem_unifyNewlines (s : Text) : '\r' ∉ unifyNewlines s := by
  induction s using lineEnd_induction with
  | nil => simp
  | pair s ih => simpa [unifyNewlines_return_newline] using ih
  | lone s hn ih => simpa [unifyNewlines_return hn] using ih
  | other c s hc ih => simpa [unifyNewlines_cons hc] using ⟨hc.symm, ih⟩

/-- Line ends that were unified stay as they are. -/
theorem unifyNewlines_unifyNewlines (s : Text) :
    unifyNewlines (unifyNewlines s) = unifyNewlines s :=
  unifyNewlines_of_not_mem (return_not_mem_unifyNewlines s)

/-! ## Two parts -/

/-- A text is unified in two parts, unless the seam falls between a carriage return and the line
feed that belongs to it. -/
theorem unifyNewlines_append {a b : Text} (h : ¬ (['\r'] <:+ a ∧ ['\n'] <+: b)) :
    unifyNewlines (a ++ b) = unifyNewlines a ++ unifyNewlines b := by
  induction a using lineEnd_induction with
  | nil => rw [List.nil_append, unifyNewlines_nil, List.nil_append]
  | pair a ih =>
    have ih := ih fun hr => h ⟨hr.1.trans (List.suffix_append ['\r', '\n'] a), hr.2⟩
    rw [List.cons_append, List.cons_append, unifyNewlines_return_newline,
      unifyNewlines_return_newline, ih, List.cons_append]
  | lone a hn ih =>
    have ih := ih fun hr => h ⟨hr.1.trans (List.suffix_cons '\r' a), hr.2⟩
    -- the line feed that would belong to the carriage return could only stand behind the seam
    have hn' : ¬ ['\n'] <+: a ++ b := by
      intro hi
      cases a with
      | nil => exact h ⟨List.suffix_rfl, hi⟩
      | cons x a => exact hn ⟨a, by rw [(List.cons_prefix_cons.mp hi).1]; rfl⟩
    rw [List.cons_append, unifyNewlines_return hn', unifyNewlines_return hn, ih, List.cons_append]
  | other c a hc ih =>
    have ih := ih fun hr => h ⟨hr.1.trans (List.suffix_cons c a), hr.2⟩
    rw [List.cons_append, unifyNewlines_cons hc, unifyNewlines_cons hc, ih, List.cons_append]

/-- A line feed that belongs to the carriage return in front of it is no line end of its own. -/
theorem unifyNewlines_append_iff {a b : Text} :
    unifyNewlines (a ++ b) = unifyNewlines a ++ unifyNewlines b ↔
      ¬ (['\r'] <:+ a ∧ ['\n'] <+: b) := by
  refine ⟨?_, unifyNewlines_append⟩
  rintro heq ⟨⟨a, rfl⟩, ⟨b, rfl⟩⟩
  have hlone : ¬ ['\n'] <+: ([] : Text) := by simp
  have hseam (r : Text) : ¬ (['\r'] <:+ a ∧ ['\n'] <+: '\r' :: r) := by
    rintro ⟨-, hp⟩
    exact absurd (List.cons_prefix_cons.mp hp).1 (by decide)
  have hfront : unifyNewlines (a ++ ['\r']) = unifyNewlines a ++ ['\n'] := by
    rw [unifyNewlines_append (hseam []), unifyNewlines_return hlone, unifyNewlines_nil]
  have hwhole : unifyNewlines (a ++ ['\r'] ++ (['\n'] ++ b)) =
      unifyNewlines a ++ '\n' :: unifyNewlines b := by
    rw [List.append_assoc, List.singleton_append, List.singleton_append,
      unifyNewlines_append (hseam _), unifyNewlines_return_newline]
  have hback : unifyNewlines (['\n'] ++ b) = '\n' :: unifyNewlines b :=
    unifyNewlines_cons (by decide) b
  have hlength := congrArg List.length heq
  rw [hwhole, hfront, hback] at hlength
  simp at hlength

/-- A character other than a line feed is found again in front of line ends that were unified. -/
theorem exists_of_unifyNewlines_eq_append_cons {s a b : Text} {c : Char} (hc : c ≠ '\n')
    (h : unifyNewlines s = a ++ c :: b) :
    ∃ u v, s = u ++ c :: v ∧ unifyNewlines u = a ∧ unifyNewlines v = b := by
  have hfeed : ∀ {x a : Text}, '\n' :: x = a ++ c :: b →
      ∃ a', a = '\n' :: a' ∧ x = a' ++ c :: b := by
    intro x a he
    cases a with
    | nil => exact absurd (List.cons.inj he).1.symm hc
    | cons y a =>
      obtain ⟨rfl, hx⟩ := List.cons.inj he
      exact ⟨a, rfl, hx⟩
  induction s using lineEnd_induction generalizing a with
  | nil =>
    rw [unifyNewlines_nil] at h
    exact absurd (List.append_eq_nil_iff.mp h.symm).2 (List.cons_ne_nil _ _)
  | pair s ih =>
    rw [unifyNewlines_return_newline] at h
    obtain ⟨a, rfl, hs⟩ := hfeed h
    obtain ⟨u, v, rfl, hu, hv⟩ := ih hs
    exact ⟨'\r' :: '\n' :: u, v, rfl, by rw [unifyNewlines_return_newline, hu], hv⟩
  | lone s hn ih =>
    rw [unifyNewlines_return hn] at h
    obtain ⟨a, rfl, hs⟩ := hfeed h
    obtain ⟨u, v, rfl, hu, hv⟩ := ih hs
    have hn' : ¬ ['\n'] <+: u := fun hp => hn (hp.trans (List.prefix_append u _))
    exact ⟨'\r' :: u, v, rfl, by rw [unifyNewlines_return hn', hu], hv⟩
  | other x s hx ih =>
    rw [unifyNewlines_cons hx] at h
    cases a with
    | nil =>
      obtain ⟨rfl, hs⟩ := List.cons.inj h
      exact ⟨[], s, rfl, unifyNewlines_nil, hs⟩
    | cons y a =>
      obtain ⟨rfl, hs⟩ := List.cons.inj h
      obtain ⟨u, v, rfl, hu, hv⟩ := ih hs
      exact ⟨x :: u, v, rfl, by rw [unifyNewlines_cons hx, hu], hv⟩

theorem exists_of_unifyNewlines_eq_cons {s b : Text} {c : Char} (hc : c ≠ '\n')
    (h : unifyNewlines s = c :: b) : ∃ v, s = c :: v ∧ unifyNewlines v = b := by
  obtain ⟨u, v, rfl, hu, hv⟩ := exists_of_unifyNewlines_eq_append_cons (a := []) hc h
  rw [unifyNewlines_eq_nil_iff.mp hu]
  exact ⟨v, rfl, hv⟩

theorem unifyNewlines_append_cons {c : Char} (h : c ≠ '\n') (a r : Text) :
    unifyNewlines (a ++ c :: r) = unifyNewlines a ++ unifyNewlines (c :: r) := by
  refine unifyNewlines_append ?_
  rintro ⟨-, hp⟩
  exact h (List.cons_prefix_cons.mp hp).1.symm

end Docblock
