/-
# Docblock.Proofs.Declaration.Piece — the pieces of a line, from both sides.

Every shape of a line is made of a few pieces: an identifier, a dotted path, a path around the word
`prototype`, a sign behind spaces and tabs, a value.  A reader of a piece takes the longest run it
can, so what it finds is told by the text alone: the reader succeeds exactly when the text is the
piece followed by something that does not go on with it.  One such statement for each reader serves
two ends: to take apart a line that a shape reads, and to read a line that was put together.
-/
import Docblock.Declaration
import Docblock.Proofs.OwnerBlock.Marker

namespace Docblock

/-! ## Runs of characters -/

namespace Text

/-- No character of a class stands at the front of a text. -/
def Stops (p : Char → Bool) (s : Text) : Prop := ∀ c ∈ s.head?, p c = false

variable {p : Char → Bool} {t r : Text}

@[simp] theorem stops_cons {c : Char} : Stops p (c :: t) ↔ p c = false := by
  simp [Stops]

theorem stops_dropWhile (s : Text) : Stops p (s.dropWhile p) := by
  intro c hc
  have h := List.head?_dropWhile_not p s
  rw [hc] at h
  simpa using h

/-- A run ends where its characters do. -/
theorem takeWhile_append_of_stops (ht : ∀ c ∈ t, p c = true) (hr : Stops p r) :
    (t ++ r).takeWhile p = t := by
  rw [List.takeWhile_append_of_pos ht]
  cases r with
  | nil => exact List.append_nil t
  | cons c r => rw [List.takeWhile_cons_of_neg (by simpa using hr), List.append_nil]

theorem dropWhile_append_of_stops (ht : ∀ c ∈ t, p c = true) (hr : Stops p r) :
    (t ++ r).dropWhile p = r := by
  rw [List.dropWhile_append_of_pos ht]
  cases r with
  | nil => rfl
  | cons c r => exact List.dropWhile_cons_of_neg (by simpa using hr)

/-- A text whose characters go on a run and that stands in front stands in front of the run. -/
theorem prefix_of_prefix_append {m : Text} (hm : ∀ c ∈ m, p c = true) (hr : Stops p r)
    (h : m <+: t ++ r) : m <+: t := by
  rcases List.prefix_or_prefix_of_prefix h (List.prefix_append t r) with hp | ⟨e, rfl⟩
  · exact hp
  · cases e with
    | nil => rw [List.append_nil]
    | cons c e =>
      -- the run would go on with the character behind it
      obtain ⟨u, hu⟩ := (List.prefix_append_right_inj t).mp h
      rw [← hu, List.cons_append, stops_cons, hm c (by simp)] at hr
      exact absurd hr (by decide)

end Text

open Text (Stops)

/-! ## Classes of characters -/

theorem isPath_of_isIdentifier {c : Char} (h : isIdentifier c = true) : isPath c = true := by
  rw [isPath, h, Bool.true_or]

theorem isIdentifier_of_not_isPath {c : Char} (h : isPath c = false) : isIdentifier c = false := by
  rw [isPath, Bool.or_eq_false_iff] at h
  exact h.1

theorem isPath_of_isBlank {c : Char} (h : isBlank c = true) : isPath c = false := by
  rw [Bool.eq_false_iff]
  intro hp
  have hb := OwnerBlock.isBlank_of_isPath hp
  rw [h] at hb
  exact absurd hb (by decide)

theorem isPath_of_isIndent {c : Char} (h : isIndent c = true) : isPath c = false :=
  isPath_of_isBlank (isBlank_of_isIndent h)

theorem isIndent_of_isIdentifier {c : Char} (h : isIdentifier c = true) : isIndent c = false := by
  rw [Bool.eq_false_iff]
  intro hi
  rw [isIdentifier_of_not_isPath (isPath_of_isIndent hi)] at h
  exact absurd h (by decide)

theorem isIdentifier_dot : isIdentifier '.' = false := by decide +kernel

/-- In a path the dots are the characters that do not belong to an identifier. -/
theorem isIdentifier_of_isPath {c : Char} (h : isPath c = true) (hc : c ≠ '.') :
    isIdentifier c = true := by
  simpa [isPath, hc] using h

namespace Declaration

/-- A run of spaces and tabs. -/
def IsGap (b : Text) : Prop := ∀ c ∈ b, isIndent c = true

theorem isGap_space : IsGap [' '] := List.all_eq_true.mp (by decide)

/-- A name as it is written on a line: an identifier that is not empty. -/
structure IsName (x : Text) : Prop where
  ne_nil : x ≠ []
  identifier : ∀ c ∈ x, isIdentifier c = true

/-- A path of names and dots that is not empty. -/
structure IsOwner (o : Text) : Prop where
  ne_nil : o ≠ []
  path : ∀ c ∈ o, isPath c = true

theorem IsName.isOwner {x : Text} (h : IsName x) : IsOwner x :=
  ⟨h.ne_nil, fun c hc => isPath_of_isIdentifier (h.identifier c hc)⟩

/-- The word `prototype` goes on a path. -/
theorem IsOwner.prototype {o : Text} (h : IsOwner o) : IsOwner (o ++ ".prototype".toList) where
  ne_nil := List.append_ne_nil_of_left_ne_nil h.ne_nil _
  path c hc := by
    have hword : ∀ c ∈ ".prototype".toList, isPath c = true :=
      List.all_eq_true.mp (by decide +kernel)
    exact (List.mem_append.mp hc).elim (h.path c) (hword c)

theorem IsName.dot_not_mem {x : Text} (h : IsName x) : '.' ∉ x := by
  intro hd
  have hi := h.identifier _ hd
  rw [isIdentifier_dot] at hi
  exact absurd hi (by decide)

/-- Spaces in front of a name end where it begins. -/
theorem IsName.dropWhile_spaces {x : Text} (hx : IsName x) (sp : Text) (hsp : ∀ c ∈ sp, c = ' ')
    (r : Text) : (sp ++ (x ++ r)).dropWhile (· == ' ') = x ++ r := by
  obtain ⟨c, t, rfl⟩ := List.exists_cons_of_ne_nil hx.ne_nil
  apply Text.dropWhile_append_of_stops
  · intro d hd
    rw [beq_iff_eq]
    exact hsp d hd
  · rw [List.cons_append, Text.stops_cons, beq_eq_false_iff_ne]
    rintro rfl
    exact absurd (hx.identifier ' ' List.mem_cons_self) (by decide +kernel)

theorem isPath_of_mem_path {o x : Text} (ho : IsOwner o) (hx : IsName x) :
    ∀ c ∈ o ++ '.' :: x, isPath c = true := by
  intro c hc
  rcases List.mem_append.mp hc with hc | hc
  · exact ho.path c hc
  · rcases List.mem_cons.mp hc with rfl | hc
    · decide +kernel
    · exact isPath_of_isIdentifier (hx.identifier c hc)

/-- Behind a name a gap and a sign that is not part of a path go on with nothing. -/
theorem IsGap.stops_path {b r : Text} {sign : Char} (hb : IsGap b) (hs : isPath sign = false) :
    Stops isPath (b ++ sign :: r) := by
  cases b with
  | nil => exact Text.stops_cons.mpr hs
  | cons c b => exact Text.stops_cons.mpr (isPath_of_isIndent (hb c List.mem_cons_self))

theorem stops_identifier_of_stops_path {r : Text} (h : Stops isPath r) : Stops isIdentifier r :=
  fun c hc => isIdentifier_of_not_isPath (h c hc)

/-! ## Identifiers -/

theorem identifier?_eq_some_iff {s x r : Text} :
    identifier? s = some (x, r) ↔ IsName x ∧ Stops isIdentifier r ∧ s = x ++ r := by
  constructor
  · intro h
    simp only [identifier?] at h
    split at h
    · cases h
    · next hne =>
      obtain ⟨rfl, rfl⟩ := Prod.mk.inj (Option.some.inj h)
      refine ⟨⟨fun he => hne (List.isEmpty_iff.mpr he), ?_⟩, Text.stops_dropWhile s, ?_⟩
      · exact fun c hc => List.mem_takeWhile_imp hc
      · exact List.takeWhile_append_dropWhile.symm
  · rintro ⟨hx, hr, rfl⟩
    simp only [identifier?, Text.takeWhile_append_of_stops hx.identifier hr,
      Text.dropWhile_append_of_stops hx.identifier hr]
    rw [if_neg fun he => hx.ne_nil (List.isEmpty_iff.mp he)]

theorem identifier?_eq_none_of_stops {s : Text} (h : Stops isIdentifier s) :
    identifier? s = none := by
  have hn : s.takeWhile isIdentifier = [] :=
    Text.takeWhile_append_of_stops (t := []) (fun _ hc => absurd hc List.not_mem_nil) h
  simp [identifier?, hn]

/-! ## Signs and right-hand sides -/

theorem behindSign?_eq_some_iff {sign : Char} (h : isIndent sign = false) {s r : Text} :
    behindSign? sign s = some r ↔ ∃ b, IsGap b ∧ s = b ++ sign :: r := by
  constructor
  · intro hs
    have hd : s.dropWhile isIndent = sign :: r := Text.after?_eq_some_iff.mp hs
    refine ⟨s.takeWhile isIndent, fun c hc => List.mem_takeWhile_imp hc, ?_⟩
    rw [← hd]
    exact List.takeWhile_append_dropWhile.symm
  · rintro ⟨b, hb, rfl⟩
    rw [behindSign?, Text.dropWhile_append_of_stops hb (Text.stops_cons.mpr h)]
    exact Text.after?_append [sign] r

/-- Behind spaces and tabs the right-hand side begins with the letters of the keyword for
functions. -/
def OpensFunction (r : Text) : Prop := ∃ b t, IsGap b ∧ r = b ++ ("function".toList ++ t)

theorem beginsFunction_iff {r : Text} : beginsFunction r = true ↔ OpensFunction r := by
  rw [beginsFunction, Text.beginsWith_iff]
  constructor
  · rintro ⟨t, ht⟩
    refine ⟨r.takeWhile isIndent, t, fun c hc => List.mem_takeWhile_imp hc, ?_⟩
    rw [ht]
    exact List.takeWhile_append_dropWhile.symm
  · rintro ⟨b, t, hb, rfl⟩
    have hs : Stops isIndent ("function".toList ++ t) := Text.stops_cons.mpr (by decide)
    rw [Text.dropWhile_append_of_stops hb hs]
    exact List.prefix_append _ t

/-- A right-hand side that is not empty and does not begin with a semicolon. -/
def HasValue (r : Text) : Prop := ∃ c t, r = c :: t ∧ c ≠ ';'

/-- The value on a right-hand side: all in front of the first semicolon, without blanks around
it. -/
def valueOf (r : Text) : Text := Text.trim (r.takeWhile (· != ';'))

theorem value?_of_hasValue {r : Text} (h : HasValue r) : value? r = some (valueOf r) := by
  obtain ⟨c, t, rfl, hc⟩ := h
  rw [value?, if_neg (by simpa using hc), valueOf]

theorem value?_of_not_hasValue {r : Text} (h : ¬ HasValue r) : value? r = none := by
  cases r with
  | nil => rfl
  | cons c t =>
    have hc : c = ';' := by_contra fun hc => h ⟨c, t, rfl, hc⟩
    subst hc
    rfl

theorem eq_valueOf_of_value? {r v : Text} (h : value? r = some v) : v = valueOf r := by
  by_cases hr : HasValue r
  · rw [value?_of_hasValue hr] at h
    exact (Option.some.inj h).symm
  · rw [value?_of_not_hasValue hr] at h
    cases h

/-! ## Dotted paths -/

/-- A text with a dot in it is cut at the last one. -/
theorem exists_last_dot {t : Text} (h : '.' ∈ t) : ∃ o x, t = o ++ '.' :: x ∧ '.' ∉ x := by
  obtain ⟨x, o, hr, hx⟩ := List.eq_append_cons_of_mem (List.mem_reverse.mpr h)
  refine ⟨o.reverse, x.reverse, ?_, fun hd => hx (List.mem_reverse.mp hd)⟩
  rw [← List.reverse_reverse t, hr]
  simp

theorem dotted?_of_not_mem {s : Text} (h : '.' ∉ s.takeWhile isPath) : dotted? s = none := by
  have hall : ∀ c ∈ (s.takeWhile isPath).reverse, isIdentifier c = true := by
    intro c hc
    rw [List.mem_reverse] at hc
    exact isIdentifier_of_isPath (List.mem_takeWhile_imp hc) fun hd => h (hd ▸ hc)
  -- the name is the whole path, and nothing is left for the owner
  have hname : (s.takeWhile isPath).reverse.takeWhile isIdentifier = (s.takeWhile isPath).reverse :=
    List.takeWhile_eq_self_iff.mpr hall
  simp [dotted?, hname]

theorem dotted?_of_last_dot {s o x : Text} (h : s.takeWhile isPath = o ++ '.' :: x)
    (hx : '.' ∉ x) :
    dotted? s = if x = [] ∨ o = [] then none else some (o, x, s.dropWhile isPath) := by
  have hid : ∀ c ∈ x.reverse, isIdentifier c = true := by
    intro c hc
    rw [List.mem_reverse] at hc
    have hp : c ∈ s.takeWhile isPath := h ▸ List.mem_append_right o (List.mem_cons_of_mem _ hc)
    exact isIdentifier_of_isPath (List.mem_takeWhile_imp hp) fun hd => hx (hd ▸ hc)
  have hrev : (o ++ '.' :: x).reverse = x.reverse ++ '.' :: o.reverse := by simp
  have hl : (o ++ '.' :: x).length - x.length - 1 = o.length := by
    simp only [List.length_append, List.length_cons]
    omega
  simp only [dotted?, h, hrev, List.reverse_reverse, hl, List.take_left,
    Text.takeWhile_append_of_stops hid (Text.stops_cons.mpr isIdentifier_dot), Bool.or_eq_true,
    List.isEmpty_iff]

/-- A path is cut at its last dot, with something on either side of it. -/
theorem dotted?_eq_some_iff {s o x r : Text} :
    dotted? s = some (o, x, r) ↔
      IsOwner o ∧ IsName x ∧ Stops isPath r ∧ s = o ++ '.' :: (x ++ r) := by
  constructor
  · intro h
    have hdot : '.' ∈ s.takeWhile isPath := by
      by_contra hd
      rw [dotted?_of_not_mem hd] at h
      cases h
    obtain ⟨o', x', hpath, hx'⟩ := exists_last_dot hdot
    rw [dotted?_of_last_dot hpath hx'] at h
    split at h
    · cases h
    · next hne =>
      simp only [Option.some.injEq, Prod.mk.injEq] at h
      obtain ⟨rfl, rfl, rfl⟩ := h
      rw [not_or] at hne
      have hall : ∀ c ∈ o' ++ '.' :: x', isPath c = true :=
        fun c hc => List.mem_takeWhile_imp (hpath ▸ hc)
      refine ⟨⟨hne.2, fun c hc => hall c (List.mem_append_left _ hc)⟩, ⟨hne.1, ?_⟩,
        Text.stops_dropWhile s, ?_⟩
      · intro c hc
        refine isIdentifier_of_isPath (hall c ?_) fun hd => hx' (hd ▸ hc)
        exact List.mem_append_right _ (List.mem_cons_of_mem _ hc)
      · rw [← List.cons_append, ← List.append_assoc, ← hpath]
        exact List.takeWhile_append_dropWhile.symm
  · rintro ⟨ho, hx, hr, rfl⟩
    have hs : o ++ '.' :: (x ++ r) = (o ++ '.' :: x) ++ r := by simp
    have hall := isPath_of_mem_path ho hx
    rw [hs, dotted?_of_last_dot (Text.takeWhile_append_of_stops hall hr) hx.dot_not_mem,
      if_neg fun h => h.elim hx.ne_nil ho.ne_nil, Text.dropWhile_append_of_stops hall hr]

theorem prototyped?_eq_some_iff {s o x r : Text} :
    prototyped? s = some (o, x, r) ↔
      IsName o ∧ IsName x ∧ Stops isIdentifier r ∧
        s = o ++ (".prototype.".toList ++ (x ++ r)) := by
  simp only [prototyped?, Option.bind_eq_bind, Option.bind_eq_some_iff]
  constructor
  · rintro ⟨⟨o', t⟩, ho, t', ht, ⟨x', r'⟩, hx, h⟩
    simp only [Option.some.injEq, Prod.mk.injEq] at h
    obtain ⟨rfl, rfl, rfl⟩ := h
    obtain ⟨howner, -, rfl⟩ := identifier?_eq_some_iff.mp ho
    obtain ⟨hname, hr, rfl⟩ := identifier?_eq_some_iff.mp hx
    have ht : t = ".prototype.".toList ++ (x' ++ r') := Text.after?_eq_some_iff.mp ht
    exact ⟨howner, hname, hr, by rw [ht]⟩
  · rintro ⟨ho, hx, hr, rfl⟩
    refine ⟨(o, ".prototype.".toList ++ (x ++ r)), ?_, x ++ r, Text.after?_append _ _, (x, r), ?_,
      rfl⟩
    · exact identifier?_eq_some_iff.mpr ⟨ho, Text.stops_cons.mpr isIdentifier_dot, rfl⟩
    · exact identifier?_eq_some_iff.mpr ⟨hx, hr, rfl⟩

end Declaration

end Docblock
