/-
# Docblock.Proofs.OwnerBlock.Marker — the markers of a block in its source.

Markers are looked for at the beginnings of lines.  An opening marker is blanks, then a text without
a slash or a line feed; a closing marker is blanks, then a fixed text.  A block of a source opens
with a marker on one line and stops behind the first closing marker that fits on a later line, or
behind its opening marker when there is none (`exists_of_mem_inSource`).
-/
import Docblock.OwnerBlock
import Docblock.Proofs.Text.Cutting
import Docblock.Proofs.Text.Trimming

namespace Docblock

namespace OwnerBlock

/-! ## Beginnings of lines -/

/-- Whether a line begins at a place of a text. -/
def BeginsLine (s : Text) (q : Nat) : Prop := q = 0 ∨ ∃ u t, s = u ++ '\n' :: t ∧ q = u.length + 1

theorem mem_laterLines_iff {place q : Nat} {s t : Text} :
    (q, t) ∈ laterLines place s ↔ ∃ u, s = u ++ '\n' :: t ∧ q = place + (u.length + 1) := by
  induction s generalizing place with
  | nil => simp [laterLines]
  | cons c s ih =>
    have hstep : (q, t) ∈ laterLines place (c :: s) ↔
        (c = '\n' ∧ q = place + 1 ∧ t = s) ∨ (q, t) ∈ laterLines (place + 1) s := by
      rw [laterLines]
      split <;> simp_all
    rw [hstep, ih]
    constructor
    · rintro (⟨rfl, rfl, rfl⟩ | ⟨u, rfl, rfl⟩)
      · exact ⟨[], rfl, rfl⟩
      · exact ⟨c :: u, rfl, by simp only [List.length_cons]; omega⟩
    · rintro ⟨_ | ⟨d, u⟩, hs, hq⟩
      · obtain ⟨rfl, rfl⟩ := List.cons.inj hs
        exact Or.inl ⟨rfl, hq, rfl⟩
      · obtain ⟨rfl, rfl⟩ := List.cons.inj hs
        exact Or.inr ⟨u, rfl, by simp only [List.length_cons] at hq; omega⟩

theorem mem_lineStarts_iff {q : Nat} {s t : Text} :
    (q, t) ∈ lineStarts s ↔ BeginsLine s q ∧ t = s.drop q := by
  rw [lineStarts, List.mem_cons, mem_laterLines_iff]
  constructor
  · rintro (h | ⟨u, rfl, rfl⟩)
    · obtain ⟨rfl, rfl⟩ := Prod.mk.inj h
      exact ⟨Or.inl rfl, rfl⟩
    · refine ⟨Or.inr ⟨u, t, rfl, by omega⟩, ?_⟩
      rw [Nat.zero_add, ← List.drop_drop, List.drop_left]
      rfl
  · rintro ⟨rfl | ⟨u, t', rfl, rfl⟩, rfl⟩
    · exact Or.inl rfl
    · refine Or.inr ⟨u, ?_, by omega⟩
      rw [← List.drop_drop, List.drop_left]
      rfl

theorem pairwise_laterLines (place : Nat) (s : Text) :
    (laterLines place s).Pairwise fun a b => a.1 < b.1 := by
  induction s generalizing place with
  | nil => exact List.Pairwise.nil
  | cons c s ih =>
    rw [laterLines]
    split
    · refine List.Pairwise.cons ?_ (ih (place + 1))
      rintro ⟨q, t⟩ h
      obtain ⟨u, -, rfl⟩ := mem_laterLines_iff.mp h
      show place + 1 < place + 1 + (u.length + 1)
      omega
    · exact ih (place + 1)

/-- The lines of a text are listed in order. -/
theorem pairwise_lineStarts (s : Text) : (lineStarts s).Pairwise fun a b => a.1 < b.1 := by
  refine List.Pairwise.cons ?_ (pairwise_laterLines 0 s)
  rintro ⟨q, t⟩ h
  obtain ⟨u, -, rfl⟩ := mem_laterLines_iff.mp h
  show 0 < 0 + (u.length + 1)
  omega

/-! ## What a marker is -/

/-- What a marker is without its indentation: neither of its ends is blank, it holds no slash and
no line feed, and it does not begin like a member in shorthand, by an identifier and a colon. -/
structure IsMarker (m : Text) : Prop where
  tight : Text.Tight m
  not_slash : '/' ∉ m
  not_newline : '\n' ∉ m
  not_member : ∃ y t, m.dropWhile isIdentifier = y :: t ∧ y ≠ ':' ∧ isIndent y = false

/-- In front of a text stands the marker `m`, indented by `indent`. -/
def Begins (m : Text) (indent : Nat) (s : Text) : Prop :=
  ∃ ind r, s = ind ++ (m ++ r) ∧ ind.length = indent ∧ ∀ x ∈ ind, isIndent x = true

/-- An opening marker as it is written behind its indentation. -/
def Opener.text (f : Form) (o : Opener) : Text :=
  f.opening ++ ((o.name ++ ".prototype".toList) ++ f.bridge)

theorem isBlank_of_isPath {x : Char} (h : isPath x = true) : isBlank x = false := by
  rw [Bool.eq_false_iff]
  intro hb
  have hw := isWord_of_isBlank hb
  simp only [isPath, isIdentifier, hw, Bool.false_or, Bool.or_eq_true, beq_iff_eq] at h
  rcases h with rfl | rfl <;> exact absurd hb (by decide)

/-- Behind an identifier in front of a dotted path stands a dot. -/
theorem dropWhile_isIdentifier_of_isPath {a : Text} (h : ∀ x ∈ a, isPath x = true) (r : Text) :
    ∃ t, (a ++ '.' :: r).dropWhile isIdentifier = '.' :: t := by
  induction a with
  | nil => exact ⟨r, List.dropWhile_cons_of_neg (by decide +kernel)⟩
  | cons x a ih =>
    rw [List.cons_append]
    by_cases hx : isIdentifier x = true
    · rw [List.dropWhile_cons_of_pos hx]
      exact ih fun y hy => h y (List.mem_cons_of_mem x hy)
    · have hp := h x List.mem_cons_self
      have : x = '.' := by simpa [isPath, hx] using hp
      subst this
      exact ⟨_, List.dropWhile_cons_of_neg hx⟩

/-- An opening marker ends with a brace. -/
theorem Opener.exists_text_eq (f : Form) (o : Opener) : ∃ t, o.text f = t ++ ['\x7b'] := by
  have hb : ∃ t, f.bridge = t ++ ['\x7b'] := by
    cases f with
    | assigned => exact ⟨" = ".toList, rfl⟩
    | extended => exact ⟨", ".toList, rfl⟩
  obtain ⟨t, ht⟩ := hb
  refine ⟨f.opening ++ ((o.name ++ ".prototype".toList) ++ t), ?_⟩
  simp only [Opener.text, ht, List.append_assoc]

/-- Outside the owner's path the text of an opening marker is fixed. -/
theorem Opener.not_mem_text {f : Form} {o : Opener} {y : Char} (hy : isPath y = false)
    (hp : ∀ x ∈ o.name, isPath x = true)
    (hf : y ∉ f.opening ++ (".prototype".toList ++ f.bridge)) : y ∉ o.text f := by
  intro h
  rcases List.mem_append.mp h with h | h
  · exact hf (List.mem_append_left _ h)
  · rw [List.append_assoc] at h
    rcases List.mem_append.mp h with h | h
    · exact Bool.false_ne_true (hy.symm.trans (hp y h))
    · exact hf (List.mem_append_right _ h)

theorem isMarker_opener {f : Form} {o : Opener} (hne : o.name ≠ [])
    (hp : ∀ x ∈ o.name, isPath x = true) : IsMarker (o.text f) where
  tight := by
    constructor
    · obtain ⟨x, t, hn⟩ := List.exists_cons_of_ne_nil hne
      cases f with
      | assigned =>
        refine ⟨x, (t ++ ".prototype".toList) ++ Form.assigned.bridge, ?_, ?_⟩
        · rw [Opener.text, hn]
          rfl
        · exact isBlank_of_isPath (hp x (by rw [hn]; exact List.mem_cons_self))
      | extended => exact ⟨'_', _, rfl, rfl⟩
    · obtain ⟨t, ht⟩ := Opener.exists_text_eq f o
      exact ⟨t, '\x7b', ht, rfl⟩
  not_slash := by
    refine Opener.not_mem_text (by decide +kernel) hp ?_
    cases f <;> decide
  not_newline := by
    refine Opener.not_mem_text (by decide +kernel) hp ?_
    cases f <;> decide
  not_member := by
    have key : ∃ t, (o.text f).dropWhile isIdentifier = '.' :: t := by
      cases f with
      | assigned =>
        have ht : o.text .assigned =
            o.name ++ '.' :: ("prototype".toList ++ Form.assigned.bridge) :=
          List.append_assoc o.name ".prototype".toList Form.assigned.bridge
        rw [ht]
        exact dropWhile_isIdentifier_of_isPath hp _
      | extended =>
        have hu : ∀ x ∈ ['_'], isPath x = true := by
          intro x hx
          rw [List.mem_singleton.mp hx]
          decide +kernel
        exact dropWhile_isIdentifier_of_isPath hu _
    obtain ⟨t, ht⟩ := key
    exact ⟨'.', t, ht, by decide, by decide⟩

theorem isMarker_closing (f : Form) : IsMarker f.closing := by
  cases f with
  | assigned =>
    exact ⟨⟨⟨'\x7d', _, rfl, rfl⟩, "\x7d".toList, ';', rfl, rfl⟩, by decide, by decide,
      '\x7d', _, rfl, by decide, by decide⟩
  | extended =>
    exact ⟨⟨⟨'\x7d', _, rfl, rfl⟩, "\x7d)".toList, ';', rfl, rfl⟩, by decide, by decide,
      '\x7d', _, rfl, by decide, by decide⟩

/-- The owner of an opening marker has a name, which is a path. -/
theorem name_of_opener? {f : Form} {s : Text} {o : Opener} (h : opener? f s = some o) :
    o.name ≠ [] ∧ ∀ x ∈ o.name, isPath x = true := by
  simp only [opener?, Option.bind_eq_bind, Option.bind_eq_some_iff] at h
  obtain ⟨r, -, name, hname, -, -, h⟩ := h
  rw [Text.before?_eq_some_iff] at hname
  split at h
  · exact absurd h (by simp)
  · next hne =>
    obtain rfl := (Option.some.inj h).symm
    refine ⟨by simpa using hne, fun x hx => ?_⟩
    have hx : x ∈ r.takeWhile isPath := by
      rw [hname]
      exact List.mem_append_left _ hx
    exact List.mem_takeWhile_imp hx

/-- An opening marker that is read stands in front, and its length is that of all of it. -/
theorem begins_of_opener? {f : Form} {s : Text} {o : Opener} (h : opener? f s = some o) :
    Begins (o.text f) o.indent s ∧ IsMarker (o.text f) ∧
      o.length = o.indent + (o.text f).length := by
  obtain ⟨hne, hpath⟩ := name_of_opener? h
  simp only [opener?, Option.bind_eq_bind, Option.bind_eq_some_iff] at h
  obtain ⟨r, hr, name, hname, r', hr', h⟩ := h
  rw [Text.after?_eq_some_iff] at hr hr'
  rw [Text.before?_eq_some_iff] at hname
  split at h
  · exact absurd h (by simp)
  · obtain rfl := (Option.some.inj h).symm
    refine ⟨⟨s.takeWhile isIndent, r', ?_, rfl, fun x hx => List.mem_takeWhile_imp hx⟩, ?_, ?_⟩
    · calc s = s.takeWhile isIndent ++
              (f.opening ++ (r.takeWhile isPath ++ r.dropWhile isPath)) := by
            rw [List.takeWhile_append_dropWhile, ← hr, List.takeWhile_append_dropWhile]
        _ = _ := by
            rw [hname, hr']
            simp [Opener.text]
    · exact isMarker_opener hne hpath
    · rw [hname]
      simp only [Opener.text, List.length_append]
      omega

theorem begins_of_closes {f : Form} {indent : Nat} {s : Text} (h : closes f indent s = true) :
    Begins f.closing indent s := by
  rw [closes, Bool.and_eq_true, beq_iff_eq, Text.beginsWith_iff] at h
  obtain ⟨hl, r, hr⟩ := h
  refine ⟨s.takeWhile isIndent, r, ?_, hl, fun x hx => List.mem_takeWhile_imp hx⟩
  rw [hr, List.takeWhile_append_dropWhile]

/-! ## Markers on lines -/

/-- On the line that begins at `i` stands the opening marker `o`. -/
def OpensAt (s : Text) (f : Form) (i : Nat) (o : Opener) : Prop :=
  BeginsLine s i ∧ opener? f (s.drop i) = some o

/-- On the line that begins at `q` stands a closing marker indented by `indent`. -/
def ClosesAt (s : Text) (f : Form) (indent q : Nat) : Prop :=
  BeginsLine s q ∧ closes f indent (s.drop q) = true

/-- The line that begins at `q` is the first one behind `i` with a closing marker indented by
`indent`. -/
structure FirstCloser (s : Text) (f : Form) (indent i q : Nat) : Prop where
  behind : i < q
  closes : ClosesAt s f indent q
  first : ∀ q', i < q' → q' < q → ¬ ClosesAt s f indent q'

/-- The block `b` opens on the line that begins at `i` with the marker `o`, and stops where the
markers of the source say. -/
structure Spans (s : Text) (f : Form) (i : Nat) (o : Opener) (b : OwnerBlock) : Prop where
  opens : OpensAt s f i o
  name : b.name = o.name
  start : b.start = i
  stop : (∃ q, FirstCloser s f o.indent i q ∧ b.stop = (q + o.indent + f.closing.length : Nat)) ∨
    ((∀ q, i < q → ¬ ClosesAt s f o.indent q) ∧ b.stop = (i + o.length : Nat))

theorem mem_among_iff {f : Form} {ls : List (Nat × Text)} {b : OwnerBlock} :
    b ∈ among f ls ↔ ∃ (pre : List (Nat × Text)) (i : Nat) (t : Text) (later : List (Nat × Text))
      (o : Opener), ls = pre ++ (i, t) :: later ∧ opener? f t = some o ∧
        b = ⟨o.name, i, ((stop? f o.indent later).getD (i + o.length) : Nat)⟩ := by
  induction ls with
  | nil => simp [among]
  | cons l ls ih =>
    obtain ⟨i, t⟩ := l
    have hstep : b ∈ among f ((i, t) :: ls) ↔
        (∃ o, opener? f t = some o ∧
          b = ⟨o.name, i, ((stop? f o.indent ls).getD (i + o.length) : Nat)⟩) ∨
        b ∈ among f ls := by
      rw [among]
      split <;> simp_all
    rw [hstep, ih]
    constructor
    · rintro (⟨o, ho, hb⟩ | ⟨pre, i', t', later, o, rfl, ho, hb⟩)
      · exact ⟨[], i, t, ls, o, rfl, ho, hb⟩
      · exact ⟨(i, t) :: pre, i', t', later, o, rfl, ho, hb⟩
    · rintro ⟨_ | ⟨l, pre⟩, i', t', later, o, hl, ho, hb⟩
      · obtain ⟨h, rfl⟩ := List.cons.inj hl
        obtain ⟨rfl, rfl⟩ := Prod.mk.inj h
        exact Or.inl ⟨o, ho, hb⟩
      · exact Or.inr ⟨pre, i', t', later, o, (List.cons.inj hl).2, ho, hb⟩

/-- The lines behind a line are those that begin at a later place. -/
theorem mem_later_iff {s t : Text} {pre later : List (Nat × Text)} {i : Nat}
    (h : lineStarts s = pre ++ (i, t) :: later) {q : Nat} {u : Text} :
    (q, u) ∈ later ↔ i < q ∧ BeginsLine s q ∧ u = s.drop q := by
  have hp := pairwise_lineStarts s
  rw [h, List.pairwise_append, List.pairwise_cons] at hp
  obtain ⟨-, ⟨hlater, -⟩, hpre⟩ := hp
  rw [← mem_lineStarts_iff, h]
  constructor
  · intro hq
    exact ⟨hlater (q, u) hq, by simp [hq]⟩
  · rintro ⟨hiq, hq⟩
    rcases List.mem_append.mp hq with hq | hq
    · have : q < i := hpre (q, u) hq (i, t) List.mem_cons_self
      omega
    · rcases List.mem_cons.mp hq with hq | hq
      · have : q = i := (Prod.mk.inj hq).1
        omega
      · exact hq

/-- The search among later lines ends at the first one that closes, or finds none. -/
theorem stop?_spec {s t : Text} {f : Form} {pre later : List (Nat × Text)} {i : Nat}
    (h : lineStarts s = pre ++ (i, t) :: later) (indent : Nat) :
    (∃ q, FirstCloser s f indent i q ∧
      stop? f indent later = some (q + indent + f.closing.length)) ∨
      ((∀ q, i < q → ¬ ClosesAt s f indent q) ∧ stop? f indent later = none) := by
  have hp := pairwise_lineStarts s
  rw [h, List.pairwise_append, List.pairwise_cons] at hp
  have hsorted := hp.2.1.2
  cases hf : later.find? fun l => closes f indent l.2 with
  | none =>
    right
    refine ⟨fun q hiq hc => ?_, by rw [stop?, hf]; rfl⟩
    have hq := (mem_later_iff h).mpr ⟨hiq, hc.1, rfl⟩
    exact absurd hc.2 (List.find?_eq_none.mp hf _ hq)
  | some l =>
    left
    obtain ⟨q, u⟩ := l
    obtain ⟨hclose, before, behind, hlater, hfirst⟩ := List.find?_eq_some_iff_append.mp hf
    obtain ⟨hiq, hline, rfl⟩ := (mem_later_iff h).mp (by rw [hlater]; simp : (q, u) ∈ later)
    refine ⟨q, ⟨hiq, ⟨hline, hclose⟩, fun q' hiq' hq' hc => ?_⟩, by rw [stop?, hf]; rfl⟩
    -- a line between the two stands before the one that was found
    have hm := (mem_later_iff h).mpr ⟨hiq', hc.1, rfl⟩
    rw [hlater] at hm hsorted
    rw [List.pairwise_append, List.pairwise_cons] at hsorted
    rcases List.mem_append.mp hm with hm | hm
    · simpa [hc.2] using hfirst _ hm
    · rcases List.mem_cons.mp hm with hm | hm
      · have : q' = q := (Prod.mk.inj hm).1
        omega
      · have : q < q' := hsorted.2.1.1 _ hm
        omega

/-- The blocks of one form span from a marker of this form. -/
theorem exists_spans_of_mem_among {s : Text} {f : Form} {b : OwnerBlock}
    (h : b ∈ among f (lineStarts s)) : ∃ i o, Spans s f i o b := by
  obtain ⟨pre, i, t, later, o, hl, ho, rfl⟩ := mem_among_iff.mp h
  obtain ⟨hline, rfl⟩ := mem_lineStarts_iff.mp (by rw [hl]; simp : (i, t) ∈ lineStarts s)
  refine ⟨i, o, ⟨hline, ho⟩, rfl, rfl, ?_⟩
  rcases stop?_spec (f := f) hl o.indent with ⟨q, hq, hstop⟩ | ⟨hn, hstop⟩
  · exact Or.inl ⟨q, hq, by rw [hstop]; rfl⟩
  · exact Or.inr ⟨hn, by rw [hstop]; rfl⟩

theorem mem_inSource_iff {s : Text} {b : OwnerBlock} :
    b ∈ inSource s ↔ ∃ f, b ∈ among f (lineStarts s) := by
  rw [inSource, List.mem_append]
  constructor
  · rintro (h | h)
    · exact ⟨.assigned, h⟩
    · exact ⟨.extended, h⟩
  · rintro ⟨f, h⟩
    cases f with
    | assigned => exact .inl h
    | extended => exact .inr h

theorem exists_of_mem_inSource {s : Text} {b : OwnerBlock} (h : b ∈ inSource s) :
    ∃ f i o, Spans s f i o b := by
  obtain ⟨f, hb⟩ := mem_inSource_iff.mp h
  exact ⟨f, exists_spans_of_mem_among hb⟩

/-- The owner of a block is named by a path. -/
theorem path_of_mem_inSource {s : Text} {b : OwnerBlock} (h : b ∈ inSource s) :
    b.name ≠ [] ∧ ∀ x ∈ b.name, isPath x = true := by
  obtain ⟨f, i, o, hspan⟩ := exists_of_mem_inSource h
  rw [hspan.name]
  exact name_of_opener? hspan.opens.2

end OwnerBlock

end Docblock
