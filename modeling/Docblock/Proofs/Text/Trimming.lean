/-
# Docblock.Proofs.Text.Trimming — what trimming leaves.

A text is the blanks in front, what trimming leaves, and the blanks at the end.  What is left begins
and ends with a character that is not blank, so trimming it again changes nothing, and blanks put
around a text do not change what trimming leaves of it.  The texts that trimming leaves alone are
the empty one and the tight ones, which begin and end so (`Tight.trim_eq`, `tight_of_trim_eq`).
-/
import Docblock.Text.Blank
import Docblock.Text.Word
import Mathlib.Data.List.DropRight

namespace Docblock

/-- No blank is a word character. -/
theorem isWord_of_isBlank {c : Char} (h : isBlank c = true) : isWord c = false := by
  -- the blanks are few: each is looked up among the bounds of the word characters
  have hb : ∀ n ∈ [9, 10, 11, 12, 13, 28, 29, 30, 31, 32, 0x85, 0xA0, 0x1680, 0x2000, 0x2001,
      0x2002, 0x2003, 0x2004, 0x2005, 0x2006, 0x2007, 0x2008, 0x2009, 0x200A, 0x2028, 0x2029,
      0x202F, 0x205F, 0x3000], isWord (Char.ofNat n) = false := by
    decide +kernel
  have hm := hb c.toNat
  rw [Char.ofNat_toNat] at hm
  apply hm
  simp only [isBlank, Bool.or_eq_true, Bool.and_eq_true, decide_eq_true_eq, beq_iff_eq] at h
  simp only [List.mem_cons, List.not_mem_nil, or_false]
  omega

theorem isBlank_of_isIndent {c : Char} (h : isIndent c = true) : isBlank c = true := by
  simp only [isIndent, Bool.or_eq_true, beq_iff_eq] at h
  rcases h with rfl | rfl <;> rfl

namespace Text

theorem blank_iff {s : Text} : blank s = true ↔ ∀ x ∈ s, isBlank x = true :=
  List.all_eq_true

@[simp] theorem blank_nil : blank [] = true := rfl

theorem blank_of_subset {s t : Text} (h : blank t = true) (hs : s ⊆ t) : blank s = true :=
  blank_iff.mpr fun _ hx => blank_iff.mp h _ (hs hx)

theorem blank_cons {c : Char} {s : Text} (hc : isBlank c = true) (hs : blank s = true) :
    blank (c :: s) = true := by
  rw [blank, List.all_cons, hc]
  exact hs

theorem blank_takeWhile (s : Text) : blank (s.takeWhile isBlank) = true :=
  blank_iff.mpr fun _ hx => List.mem_takeWhile_imp hx

/-- In a text that is not blank, blanks in front are followed by something. -/
theorem length_takeWhile_lt {s : Text} (h : blank s = false) :
    (s.takeWhile isBlank).length < s.length := by
  by_contra hlt
  have hall : s.takeWhile isBlank = s :=
    (List.takeWhile_prefix isBlank).eq_of_length_le (Nat.le_of_not_lt hlt)
  have hblank := blank_takeWhile s
  rw [hall, h] at hblank
  exact Bool.false_ne_true hblank

/-- A text that is not blank has a character that is not. -/
theorem exists_append_cons_of_not_blank {s : Text} (h : blank s = false) :
    ∃ a y b, s = a ++ y :: b ∧ isBlank y = false := by
  obtain ⟨y, hmem, hy⟩ := List.all_eq_false.mp h
  obtain ⟨a, b, rfl⟩ := List.append_of_mem hmem
  exact ⟨a, y, b, rfl, by simpa using hy⟩

/-! ## Up to a character -/

theorem takeWhile_append_cons {p : Char → Bool} {y : Char} (h : p y = false) (t r : Text) :
    (t ++ y :: r).takeWhile p = t.takeWhile p := by
  rw [List.takeWhile_append, List.takeWhile_cons_of_neg (by simp [h]), List.append_nil]
  split
  · next hl => exact (List.IsPrefix.eq_of_length (List.takeWhile_prefix p) hl).symm
  · rfl

theorem dropWhile_append_cons {p : Char → Bool} {y : Char} (h : p y = false) (t r : Text) :
    (t ++ y :: r).dropWhile p = t.dropWhile p ++ y :: r := by
  rw [List.dropWhile_append, List.dropWhile_cons_of_neg (by simp [h])]
  split
  · next he => rw [List.isEmpty_iff.mp he, List.nil_append]
  · rfl

/-! ## One end -/

theorem trimStart_append_of_blank {u : Text} (h : blank u = true) (s : Text) :
    trimStart (u ++ s) = trimStart s :=
  List.dropWhile_append_of_pos (blank_iff.mp h)

/-- A text that does not begin with a blank has none to take off in front. -/
theorem trimStart_of_front {s : Text} (h : ∀ c ∈ s.head?, isBlank c = false) : trimStart s = s := by
  cases s with
  | nil => rfl
  | cons c s => exact List.dropWhile_cons_of_neg (by simp [h c rfl])

theorem trimEnd_append_of_blank {v : Text} (h : blank v = true) (s : Text) :
    trimEnd (s ++ v) = trimEnd s := by
  have hr : ∀ x ∈ v.reverse, isBlank x = true :=
    fun x hx => blank_iff.mp h x (List.mem_reverse.mp hx)
  unfold trimEnd dropEndWhile
  rw [List.reverse_append, List.dropWhile_append_of_pos hr]

theorem trimEnd_concat {x : Char} (h : isBlank x = false) (s : Text) :
    trimEnd (s ++ [x]) = s ++ [x] :=
  List.rdropWhile_concat_neg isBlank s x (by simp [h])

theorem trimEnd_append_cons {y : Char} (h : isBlank y = false) (a r : Text) :
    trimEnd (a ++ y :: r) = a ++ y :: trimEnd r := by
  have hr : (a ++ y :: r).reverse = r.reverse ++ y :: a.reverse := by simp
  unfold trimEnd dropEndWhile
  rw [hr, dropWhile_append_cons h]
  simp

theorem trimEnd_prefix (s : Text) : trimEnd s <+: s := List.rdropWhile_prefix isBlank s

/-- What trimming takes off the end is blank. -/
theorem exists_trimEnd_append (s : Text) :
    ∃ v, s = trimEnd s ++ v ∧ blank v = true := by
  refine ⟨s.rtakeWhile isBlank, ?_, blank_iff.mpr fun x hx => List.mem_rtakeWhile_imp hx⟩
  exact List.rdropWhile_append_rtakeWhile.symm

/-- Trimming the end does not reach past a character that is not blank. -/
theorem prefix_trimEnd {a s : Text} {x : Char} (h : a ++ [x] <+: s) (hx : isBlank x = false) :
    a ++ [x] <+: trimEnd s := by
  obtain ⟨t, rfl⟩ := h
  induction t using List.reverseRecOn with
  | nil =>
    have hs : trimEnd ((a ++ [x]) ++ []) = a ++ [x] := by rw [List.append_nil, trimEnd_concat hx]
    exact hs.symm ▸ List.prefix_rfl
  | append_singleton t y ih =>
    rw [← List.append_assoc]
    cases hy : isBlank y with
    | true =>
      have hb : blank [y] = true := blank_iff.mpr fun z hz => List.mem_singleton.mp hz ▸ hy
      rw [trimEnd_append_of_blank hb]
      exact ih
    | false =>
      rw [trimEnd_concat hy, List.append_assoc]
      exact List.prefix_append _ _

/-! ## Both ends -/

theorem trim_eq_nil_iff {s : Text} : trim s = [] ↔ blank s = true := by
  rw [blank_iff, trim, trimEnd, dropEndWhile, List.reverse_eq_nil_iff, List.dropWhile_eq_nil_iff]
  constructor
  · intro h x hx
    rw [← List.takeWhile_append_dropWhile (p := isBlank) (l := s)] at hx
    rcases List.mem_append.mp hx with hx | hx
    · exact List.mem_takeWhile_imp hx
    · exact h x (List.mem_reverse.mpr hx)
  · intro h x hx
    exact h x ((List.dropWhile_suffix isBlank).subset (List.mem_reverse.mp hx))

/-- A text is the blanks in front of it, what trimming leaves, and blanks at its end. -/
theorem exists_trim (s : Text) :
    ∃ v, s = s.takeWhile isBlank ++ (trim s ++ v) ∧ blank v = true := by
  obtain ⟨v, hv, hb⟩ := exists_trimEnd_append (trimStart s)
  refine ⟨v, ?_, hb⟩
  rw [trim, ← hv]
  exact List.takeWhile_append_dropWhile.symm

theorem trim_append_of_blank {u v : Text} (hu : blank u = true) (hv : blank v = true)
    (s : Text) : trim (u ++ (s ++ v)) = trim s := by
  rw [trim, trimStart_append_of_blank hu, trimStart, List.dropWhile_append]
  split
  · next hs =>
    have hs : blank s = true := by
      rw [blank_iff, ← List.dropWhile_eq_nil_iff]
      exact List.isEmpty_iff.mp hs
    rw [trim_eq_nil_iff.mpr hs]
    exact trim_eq_nil_iff.mpr hv
  · exact trimEnd_append_of_blank hv (trimStart s)

theorem trim_cons_of_blank {x : Char} (h : isBlank x = true) (s : Text) :
    trim (x :: s) = trim s := by
  rw [trim, trimStart, List.dropWhile_cons_of_pos h]
  rfl

theorem not_prefix_dropWhile {p : Char → Bool} {c : Char} (hc : p c = true) (s : Text) :
    ¬ [c] <+: s.dropWhile p := by
  rintro ⟨r, hr⟩
  have hhead := List.head?_dropWhile_not p s
  rw [← hr] at hhead
  exact Bool.noConfusion (hc.symm.trans hhead)

/-- What is dropped around a text does not stand in front of what is left. -/
theorem not_prefix_dropAround {p : Char → Bool} {c : Char} (hc : p c = true) (s : Text) :
    ¬ [c] <+: dropAround p s := by
  intro h
  exact not_prefix_dropWhile hc s (h.trans (List.rdropWhile_prefix p _))

/-- Nor does it stand at the end. -/
theorem not_suffix_dropAround {p : Char → Bool} {c : Char} (hc : p c = true) (s : Text) :
    ¬ [c] <:+ dropAround p s := by
  intro h
  have hreverse : [c].reverse <:+ ((s.dropWhile p).reverse.dropWhile p).reverse := h
  exact not_prefix_dropWhile hc _ (List.reverse_suffix.mp hreverse)

/-- What trimming leaves is not blank in front. -/
theorem isBlank_of_trim_eq_cons {s t : Text} {x : Char} (h : trim s = x :: t) :
    isBlank x = false := by
  rw [Bool.eq_false_iff]
  intro hx
  exact not_prefix_dropAround hx s ⟨t, h.symm⟩

@[simp] theorem trim_trim (s : Text) : trim (trim s) = trim s := by
  obtain ⟨v, hv, hb⟩ := exists_trim s
  calc trim (trim s) = trim (s.takeWhile isBlank ++ (trim s ++ v)) :=
        (trim_append_of_blank (blank_takeWhile s) hb (trim s)).symm
    _ = trim s := congrArg trim hv.symm

/-! ## Texts without blanks at their ends -/

/-- A text that begins and ends with a character that is not blank. -/
structure Tight (s : Text) : Prop where
  front : ∃ x t, s = x :: t ∧ isBlank x = false
  back : ∃ t x, s = t ++ [x] ∧ isBlank x = false

theorem Tight.trim_eq {s : Text} (h : Tight s) : trim s = s := by
  obtain ⟨x, t, hs, hx⟩ := h.front
  obtain ⟨t', y, hs', hy⟩ := h.back
  have hstart : trimStart s = s := trimStart_of_front (by simpa [hs] using hx)
  rw [trim, hstart, hs', trimEnd_concat hy]

theorem tight_of_trim_eq {s : Text} (h : trim s = s) (hne : s ≠ []) : Tight s where
  front := by
    obtain ⟨x, t, rfl⟩ := List.exists_cons_of_ne_nil hne
    exact ⟨x, t, rfl, isBlank_of_trim_eq_cons h⟩
  back := by
    obtain ⟨t, x, rfl⟩ : ∃ t x, s = t ++ [x] :=
      ⟨s.dropLast, s.getLast hne, (List.dropLast_append_getLast hne).symm⟩
    refine ⟨t, x, rfl, ?_⟩
    -- a blank at the end would be gone
    rw [Bool.eq_false_iff]
    intro hx
    have hb : blank [x] = true := blank_iff.mpr fun z hz => List.mem_singleton.mp hz ▸ hx
    have hshort : trim (t ++ [x]) = trim t := trim_append_of_blank blank_nil hb t
    have hle : (trim t).length ≤ t.length := by
      obtain ⟨v, hv, -⟩ := exists_trim t
      have := congrArg List.length hv
      simp only [List.length_append] at this
      omega
    rw [← hshort, h, List.length_append, List.length_singleton] at hle
    omega

theorem Tight.append {a b : Text} (ha : Tight a) (hb : Tight b) (m : Text) :
    Tight (a ++ (m ++ b)) where
  front := by
    obtain ⟨x, t, rfl, hx⟩ := ha.front
    exact ⟨x, _, rfl, hx⟩
  back := by
    obtain ⟨t, x, rfl, hx⟩ := hb.back
    refine ⟨a ++ (m ++ t), x, ?_, hx⟩
    simp only [List.append_assoc]

/-! ## First lines -/

theorem firstLine_of_not_mem {s : Text} (h : '\n' ∉ s) : firstLine s = s := by
  apply List.takeWhile_eq_self_iff.mpr
  intro c hc
  rw [bne_iff_ne]
  rintro rfl
  exact h hc

theorem firstLine_line_append {a : Text} (h : '\n' ∉ a) (b : Text) :
    firstLine (a ++ '\n' :: b) = a := by
  rw [firstLine, takeWhile_append_cons (by decide)]
  exact firstLine_of_not_mem h

theorem prefix_firstLine {m s : Text} (h : m <+: s) (hm : '\n' ∉ m) : m <+: firstLine s := by
  obtain ⟨r, rfl⟩ := h
  have hp : ∀ x ∈ m, (x != '\n') = true := fun x hx => bne_iff_ne.mpr fun h => hm (h ▸ hx)
  rw [firstLine, List.takeWhile_append_of_pos hp]
  exact List.prefix_append m _

/-- The first line of code stays when something changes on a later one. -/
theorem firstLine_trim_append {c : Text} (h : '\n' ∈ trimStart c) {y : Char}
    (hy : isBlank y = false) (x : Text) :
    firstLine (trim (c ++ y :: x)) = firstLine (trimStart c) := by
  obtain ⟨a, b, hc, ha⟩ : ∃ a b, trimStart c = a ++ '\n' :: b ∧ '\n' ∉ a :=
    List.eq_append_cons_of_mem h
  have hstart : trimStart (c ++ y :: x) = a ++ '\n' :: (b ++ y :: x) := by
    have := dropWhile_append_cons hy c x
    rw [trimStart] at hc
    rw [trimStart, this, hc, List.append_assoc, List.cons_append]
  -- blanks at the end are taken off from behind `y` only, so the line feed stays
  have hp : (a ++ '\n' :: b) ++ [y] <+: trim (c ++ y :: x) := by
    refine prefix_trimEnd ?_ hy
    rw [hstart]
    exact ⟨x, by simp⟩
  obtain ⟨r, hr⟩ := hp
  rw [← hr, hc, firstLine_line_append ha, List.append_assoc, List.append_assoc, List.cons_append,
    firstLine_line_append ha]

/-- Up to a character that is not blank the first line of code is as it is written. -/
theorem firstLine_trim_append_cons {a : Text} {y : Char} (hfront : ∀ c ∈ a.head?, isBlank c = false)
    (hline : '\n' ∉ a) (hy : isBlank y = false) (r : Text) :
    firstLine (trim (a ++ y :: r)) = a ++ y :: firstLine (trimEnd r) := by
  have hstart : trimStart (a ++ y :: r) = a ++ y :: r := by
    apply trimStart_of_front
    cases a with
    | nil => simpa using hy
    | cons c a => exact hfront
  have hp : ∀ x ∈ a ++ [y], (x != '\n') = true := by
    intro x hx
    rw [bne_iff_ne]
    rintro rfl
    rcases List.mem_append.mp hx with hx | hx
    · exact hline hx
    · rw [← List.mem_singleton.mp hx] at hy
      exact absurd hy (by decide)
  have hs : a ++ y :: trimEnd r = (a ++ [y]) ++ trimEnd r := by simp
  rw [trim, hstart, trimEnd_append_cons hy, hs, firstLine, List.takeWhile_append_of_pos hp]
  simp [firstLine]

end Text

end Docblock
