/-
# Docblock.Proofs.Declaration.FirstLine — what stands behind the first line of code.

Code is trimmed before its first line is taken, so blanks at the end of that line are gone when
nothing follows it and stay when something does.  A reader of a piece takes none of them: what it
finds is the same with them, and they are at the end of what it leaves over (`Pads`).  So no shape
tells the two lines apart, unless it comes to a value and the blanks are all there is.  Main
statement: blanks and later lines change nothing, except behind a sign that awaits a value; there
the blanks are taken for an empty one, and without them nothing is declared
(`ofCode?_firstLine_iff`).
-/
import Docblock.Proofs.Declaration.Keyword

namespace Docblock

open Text (Stops)

/-! ## Blanks at the end -/

/-- The text `s'` is `s` with blanks at its end. -/
def Pads (s s' : Text) : Prop := ∃ v, Text.blank v = true ∧ s' = s ++ v

section

variable {s s' m : Text} {p : Char → Bool}

theorem Pads.trim_eq (h : Pads s s') : Text.trim s' = Text.trim s := by
  obtain ⟨v, hv, rfl⟩ := h
  exact Text.trim_append_of_blank Text.blank_nil hv s

/-- A run may go on in the blanks at the end, and then it has blanks at its end. -/
theorem Pads.takeWhile (h : Pads s s') (p : Char → Bool) :
    Pads (s.takeWhile p) (s'.takeWhile p) := by
  obtain ⟨v, hv, rfl⟩ := h
  rw [List.takeWhile_append]
  split
  · next he =>
    have hall : s.takeWhile p = s := (List.takeWhile_prefix p).eq_of_length he
    have hblank := Text.blank_of_subset hv (List.takeWhile_prefix p).subset
    exact ⟨v.takeWhile p, hblank, by rw [hall]⟩
  · exact ⟨[], rfl, (List.append_nil _).symm⟩

theorem Pads.takeWhile_eq (h : Pads s s') (hp : ∀ c, isBlank c = true → p c = false) :
    s'.takeWhile p = s.takeWhile p := by
  obtain ⟨v, hv, rfl⟩ := h
  cases v with
  | nil => rw [List.append_nil]
  | cons c v =>
    have hc : p c = false := hp c (Text.blank_iff.mp hv c List.mem_cons_self)
    exact Text.takeWhile_append_cons hc s v

/-- What is left behind a run keeps the blanks at its end, as far as they do not go on the run. -/
theorem Pads.dropWhile (h : Pads s s') (p : Char → Bool) :
    Pads (s.dropWhile p) (s'.dropWhile p) := by
  obtain ⟨v, hv, rfl⟩ := h
  rw [List.dropWhile_append]
  split
  · next he =>
    have hblank := Text.blank_of_subset hv (List.dropWhile_suffix p).subset
    exact ⟨v.dropWhile p, hblank, by rw [List.isEmpty_iff.mp he, List.nil_append]⟩
  · exact ⟨v, hv, rfl⟩

/-- Blanks are not mistaken for a part of a marker that has none. -/
theorem Pads.after? (h : Pads s s') (hm : m.any isBlank = false) :
    Option.Rel Pads (Text.after? m s) (Text.after? m s') := by
  obtain ⟨v, hv, rfl⟩ := h
  cases v with
  | nil =>
    rw [List.append_nil]
    cases Text.after? m s with
    | none => exact .none
    | some r => exact .some ⟨[], rfl, (List.append_nil r).symm⟩
  | cons c v =>
    have hc : c ∉ m := by
      intro hc
      exact List.any_eq_false.mp hm c hc (Text.blank_iff.mp hv c List.mem_cons_self)
    rw [Text.after?_append_cons hc]
    cases Text.after? m s with
    | none => exact .none
    | some r => exact .some ⟨c :: v, hv, rfl⟩

theorem Pads.beginsWith_eq (h : Pads s s') (hm : m.any isBlank = false) :
    Text.beginsWith m s' = Text.beginsWith m s := by
  have hrel := h.after? hm
  rw [Bool.eq_iff_iff, Text.beginsWith_iff, Text.beginsWith_iff, ← not_iff_not,
    ← Text.after?_eq_none_iff, ← Text.after?_eq_none_iff]
  generalize Text.after? m s = a at hrel ⊢
  generalize Text.after? m s' = a' at hrel ⊢
  cases hrel with
  | none => exact Iff.rfl
  | some _ => exact iff_of_false (by simp) (by simp)

/-- A marker with blanks may be completed by those at the end of a text, but then only blanks are
left behind it. -/
theorem Pads.after?_or (h : Pads s s') (m : Text) :
    Option.Rel Pads (Text.after? m s) (Text.after? m s') ∨
      Text.after? m s = none ∧ ∃ r, Text.after? m s' = some r ∧ Text.blank r = true := by
  obtain ⟨v, hv, rfl⟩ := h
  cases hs' : Text.after? m (s ++ v) with
  | none =>
    have hs : Text.after? m s = none := by
      rw [Text.after?_eq_none_iff] at hs' ⊢
      exact fun hp => hs' (hp.trans (List.prefix_append s v))
    rw [hs]
    exact .inl .none
  | some r =>
    have happ : s ++ v = m ++ r := Text.after?_eq_some_iff.mp hs'
    rcases List.append_eq_append_iff.mp happ with ⟨u, rfl, rfl⟩ | ⟨u, rfl, rfl⟩
    · cases u with
      | nil =>
        have hs : Text.after? (s ++ []) s = some [] :=
          Text.after?_eq_some_iff.mpr (by simp)
        rw [hs]
        exact .inl (.some ⟨r, hv, rfl⟩)
      | cons c u =>
        refine .inr ⟨?_, r, rfl, Text.blank_of_subset hv (List.subset_append_right _ r)⟩
        rw [Text.after?_eq_none_iff]
        intro hp
        have hle := hp.length_le
        simp only [List.length_append, List.length_cons] at hle
        omega
    · rw [Text.after?_append]
      exact .inl (.some ⟨v, hv, rfl⟩)

end

section

variable {α β γ δ : Type} {R : α → β → Prop} {a : Option α} {b : Option β}

theorem rel_bind {S : γ → δ → Prop} {f : α → Option γ} {g : β → Option δ} (h : Option.Rel R a b)
    (hfg : ∀ x y, R x y → Option.Rel S (f x) (g y)) : Option.Rel S (a.bind f) (b.bind g) := by
  cases h with
  | none => exact .none
  | some hxy => exact hfg _ _ hxy

/-- Two computations that go on alike from related results come to the same. -/
theorem bind_eq_of_rel {f : α → Option γ} {g : β → Option γ} (h : Option.Rel R a b)
    (hfg : ∀ x y, a = some x → R x y → f x = g y) : a.bind f = b.bind g := by
  cases h with
  | none => rfl
  | some hxy => exact hfg _ _ rfl hxy

end

namespace Declaration

/-! ## Readers and blanks at the end -/

theorem isIdentifier_of_isBlank {c : Char} (h : isBlank c = true) : isIdentifier c = false :=
  isIdentifier_of_not_isPath (isPath_of_isBlank h)

theorem identifier?_of_blank {s : Text} (h : Text.blank s = true) : identifier? s = none := by
  apply identifier?_eq_none_of_stops
  intro c hc
  exact isIdentifier_of_isBlank (Text.blank_iff.mp h c (List.mem_of_mem_head? hc))

/-- The same name is found twice, with the same texts behind it but for blanks at the end. -/
inductive NamePads : Text × Text → Text × Text → Prop
  | mk (x : Text) {r r' : Text} (h : Pads r r') : NamePads (x, r) (x, r')

/-- The same owner and name are found twice, with the same texts behind them but for blanks at the
end. -/
inductive PathPads : Text × Text × Text → Text × Text × Text → Prop
  | mk (o x : Text) {r r' : Text} (h : Pads r r') : PathPads (o, x, r) (o, x, r')

section

variable {s s' : Text}

theorem rel_identifier? (h : Pads s s') :
    Option.Rel NamePads (identifier? s) (identifier? s') := by
  simp only [identifier?, h.takeWhile_eq fun _ => isIdentifier_of_isBlank]
  split
  · exact .none
  · exact .some (.mk _ (h.dropWhile _))

theorem rel_behindSign? (h : Pads s s') {sign : Char} (hs : isBlank sign = false) :
    Option.Rel Pads (behindSign? sign s) (behindSign? sign s') :=
  (h.dropWhile isIndent).after? (by simp [hs])

theorem rel_dotted? (h : Pads s s') : Option.Rel PathPads (dotted? s) (dotted? s') := by
  simp only [dotted?, h.takeWhile_eq fun _ => isPath_of_isBlank]
  split
  · exact .none
  · exact .some (.mk _ _ (h.dropWhile _))

theorem rel_prototyped? (h : Pads s s') :
    Option.Rel PathPads (prototyped? s) (prototyped? s') := by
  refine rel_bind (rel_identifier? h) ?_
  rintro _ _ ⟨o, hr⟩
  refine rel_bind (hr.after? (by decide)) ?_
  intro r r' hr
  refine rel_bind (rel_identifier? hr) ?_
  rintro _ _ ⟨x, ht⟩
  exact .some (.mk o x ht)

theorem beginsFunction_of_pads (h : Pads s s') : beginsFunction s' = beginsFunction s :=
  (h.dropWhile isIndent).beginsWith_eq (by decide)

/-- Blanks at the end of a right-hand side are no part of a value in front of them. -/
theorem value?_of_pads (h : Pads s s') (hne : s ≠ []) : value? s' = value? s := by
  obtain ⟨c, t, rfl⟩ := List.exists_cons_of_ne_nil hne
  have htrim := (h.takeWhile (· != ';')).trim_eq
  obtain ⟨v, -, rfl⟩ := h
  rw [List.cons_append] at htrim ⊢
  rw [value?, htrim]
  rfl

theorem beginsFunction_of_blank (h : Text.blank s = true) : beginsFunction s = false :=
  beginsFunction_of_pads (s := []) ⟨s, h, rfl⟩

/-- Blanks alone are taken for an empty value. -/
theorem value?_of_blank (h : Text.blank s = true) (hne : s ≠ []) : value? s = some [] := by
  obtain ⟨c, t, rfl⟩ := List.exists_cons_of_ne_nil hne
  have hc : c ≠ ';' := by
    rintro rfl
    exact absurd (Text.blank_iff.mp h ';' List.mem_cons_self) (by decide)
  have hvalue : Text.blank ((c :: t).takeWhile (· != ';')) = true :=
    Text.blank_of_subset h (List.takeWhile_prefix _).subset
  rw [value?_of_hasValue ⟨c, t, rfl, hc⟩, valueOf, Text.trim_eq_nil_iff.mpr hvalue]

/-- Whether a function stands behind a sign is told without the blanks at the end. -/
theorem functionBehind_of_pads (h : Pads s s') {sign : Char} (hs : isBlank sign = false)
    (found : Reading) :
    ((behindSign? sign s).bind fun r => if beginsFunction r then some found else none) =
      (behindSign? sign s').bind fun r => if beginsFunction r then some found else none := by
  refine bind_eq_of_rel (rel_behindSign? h hs) ?_
  intro r r' _ hr
  rw [beginsFunction_of_pads hr]

/-- So is the value behind a sign, when there is something in front of the blanks. -/
theorem valueBehind_of_pads (h : Pads s s') {sign : Char} (hs : isBlank sign = false)
    (hne : behindSign? sign s ≠ some []) (found : Text → Reading) :
    ((behindSign? sign s).bind fun r => (value? r).bind fun v => some (found v)) =
      (behindSign? sign s').bind fun r => (value? r).bind fun v => some (found v) := by
  refine bind_eq_of_rel (rel_behindSign? h hs) ?_
  intro r r' hread hr
  have hr0 : r ≠ [] := by
    rintro rfl
    exact hne hread
  rw [value?_of_pads hr hr0]

/-- The empty value stands where there is none, so a variable has the same value with blanks at the
end. -/
theorem getD_value?_of_pads (h : Pads s s') :
    ((behindSign? '=' s).bind value?).getD [] = ((behindSign? '=' s').bind value?).getD [] := by
  have hsign : Option.Rel Pads (behindSign? '=' s) (behindSign? '=' s') :=
    rel_behindSign? h (by decide)
  generalize behindSign? '=' s = a at hsign ⊢
  generalize behindSign? '=' s' = a' at hsign ⊢
  cases hsign with
  | none => rfl
  | @some r r' hr =>
    show (value? r).getD [] = (value? r').getD []
    by_cases hne : r = []
    · obtain ⟨v, hv, rfl⟩ := hr
      subst hne
      by_cases hne : v = []
      · rw [hne, List.nil_append]
      · rw [List.nil_append, value?_of_blank hv hne]
        rfl
    · rw [value?_of_pads hr hne]

end

/-! ## Shapes and blanks at the end -/

/-- The line ends behind a sign that awaits a value: a path and an equals sign, or a name and a
colon. -/
inductive AwaitsValue : Text → Prop
  | path {o x b : Text} (ho : IsOwner o) (hx : IsName x) (hb : IsGap b) :
      AwaitsValue (o ++ '.' :: (x ++ (b ++ ['='])))
  | name {x b : Text} (hx : IsName x) (hb : IsGap b) : AwaitsValue (x ++ (b ++ [':']))

section

variable {s s' o x t : Text}

/-- Where a sign stands in front of nothing, a value is awaited. -/
theorem awaitsValue_of_dotted? (hs : dotted? s = some (o, x, t))
    (ht : behindSign? '=' t = some []) : AwaitsValue s := by
  obtain ⟨ho, hx, -, rfl⟩ := dotted?_eq_some_iff.mp hs
  obtain ⟨b, hb, rfl⟩ := (behindSign?_eq_some_iff (by decide)).mp ht
  exact .path ho hx hb

theorem awaitsValue_of_prototyped? (hs : prototyped? s = some (o, x, t))
    (ht : behindSign? '=' t = some []) : AwaitsValue s := by
  obtain ⟨ho, hx, -, rfl⟩ := prototyped?_eq_some_iff.mp hs
  obtain ⟨b, hb, rfl⟩ := (behindSign?_eq_some_iff (by decide)).mp ht
  have hline : o ++ (".prototype.".toList ++ (x ++ (b ++ ['=']))) =
      (o ++ ".prototype".toList) ++ '.' :: (x ++ (b ++ ['='])) := by simp
  rw [hline]
  exact .path ho.isOwner.prototype hx hb

theorem awaitsValue_of_identifier? (hs : identifier? s = some (x, t))
    (ht : behindSign? ':' t = some []) : AwaitsValue s := by
  obtain ⟨hx, -, rfl⟩ := identifier?_eq_some_iff.mp hs
  obtain ⟨b, hb, rfl⟩ := (behindSign?_eq_some_iff (by decide)).mp ht
  exact .name hx hb

/-- No shape tells blanks at the end of a line from none, unless a value is awaited there. -/
theorem read?_of_pads (h : Pads s s') (hs : ¬ AwaitsValue s) (shape : Shape) :
    shape.read? s = shape.read? s' := by
  cases shape with
  | functionStatement =>
    rcases h.after?_or "function ".toList with hrel | ⟨hnone, r, hr, hblank⟩
    · refine bind_eq_of_rel hrel ?_
      intro r r' _ hr
      refine bind_eq_of_rel (rel_identifier? hr) ?_
      rintro _ _ - ⟨n, ht⟩
      exact bind_eq_of_rel ((ht.dropWhile _).after? (by decide)) fun _ _ _ _ => rfl
    · -- only blanks stand behind the keyword, and no name
      simp only [Shape.read?, Option.bind_eq_bind, hnone, hr, Option.bind_none, Option.bind_some,
        identifier?_of_blank hblank]
  | functionExpression =>
    refine bind_eq_of_rel (h.after? (by decide)) ?_
    intro r r' _ hr
    refine bind_eq_of_rel (rel_identifier? (hr.dropWhile _)) ?_
    rintro _ _ - ⟨n, ht⟩
    exact functionBehind_of_pads ht (by decide) ⟨[], n, []⟩
  | prototypeMethod =>
    refine bind_eq_of_rel (rel_prototyped? h) ?_
    rintro _ _ - ⟨o, n, ht⟩
    exact functionBehind_of_pads ht (by decide) ⟨o, n, []⟩
  | prototypeProperty =>
    refine bind_eq_of_rel (rel_prototyped? h) ?_
    rintro _ _ hread ⟨o, n, ht⟩
    have hvalue : behindSign? '=' _ ≠ some [] := fun he => hs (awaitsValue_of_prototyped? hread he)
    exact valueBehind_of_pads ht (by decide) hvalue fun v => ⟨o, n, v⟩
  | method =>
    refine bind_eq_of_rel (rel_dotted? h) ?_
    rintro _ _ - ⟨o, n, ht⟩
    exact functionBehind_of_pads ht (by decide) ⟨o, n, []⟩
  | shorthandMethod =>
    refine bind_eq_of_rel (rel_identifier? h) ?_
    rintro _ _ - ⟨n, ht⟩
    exact functionBehind_of_pads ht (by decide) ⟨[], n, []⟩
  | property =>
    refine bind_eq_of_rel (rel_dotted? h) ?_
    rintro _ _ hread ⟨o, n, ht⟩
    have hvalue : behindSign? '=' _ ≠ some [] := fun he => hs (awaitsValue_of_dotted? hread he)
    exact valueBehind_of_pads ht (by decide) hvalue fun v => ⟨o, n, v⟩
  | shorthandProperty =>
    refine bind_eq_of_rel (rel_identifier? h) ?_
    rintro _ _ hread ⟨n, ht⟩
    have hvalue : behindSign? ':' _ ≠ some [] := fun he => hs (awaitsValue_of_identifier? hread he)
    exact valueBehind_of_pads ht (by decide) hvalue fun v =>
      ⟨[], n, Text.trimEnd (Text.dropEndWhile (· == ',') v)⟩
  | bareVariable =>
    rcases h.after?_or ['v', 'a', 'r', ' '] with hrel | ⟨hnone, r, hr, hblank⟩
    · refine bind_eq_of_rel hrel ?_
      intro r r' _ hr
      refine bind_eq_of_rel (rel_identifier? (hr.dropWhile _)) ?_
      rintro _ _ - ⟨n, ht⟩
      simp only [getD_value?_of_pads ht]
    · have hrest : identifier? (r.dropWhile (· == ' ')) = none :=
        identifier?_of_blank (Text.blank_of_subset hblank (List.dropWhile_suffix _).subset)
      simp only [Shape.read?, Option.bind_eq_bind, hnone, hr, Option.bind_none, Option.bind_some,
        hrest]

/-- What a line declares does not depend on blanks at its end, unless a value is awaited there. -/
theorem onLine?_of_pads (h : Pads s s') (hs : ¬ AwaitsValue s) (shapes : List Shape) (offset : Int)
    (blocks : List OwnerBlock) :
    onLine? shapes s offset blocks = onLine? shapes s' offset blocks := by
  simp only [onLine?, read?_of_pads h hs]

end

/-! ## The first line of code -/

/-- Blanks at the end of the line stand where its value is awaited. -/
def LacksValue (l : Text) : Prop :=
  ∃ s v, l = s ++ v ∧ v ≠ [] ∧ Text.blank v = true ∧ AwaitsValue s

theorem AwaitsValue.exists_concat {s : Text} (h : AwaitsValue s) :
    ∃ t c, s = t ++ [c] ∧ (c = '=' ∨ c = ':') := by
  cases h with
  | @path o x b => exact ⟨o ++ '.' :: (x ++ b), '=', by simp, .inl rfl⟩
  | @name x b => exact ⟨x ++ b, ':', by simp, .inr rfl⟩

theorem AwaitsValue.trimEnd_eq {s : Text} (h : AwaitsValue s) : Text.trimEnd s = s := by
  obtain ⟨t, c, rfl, rfl | rfl⟩ := h.exists_concat
  · exact Text.trimEnd_concat (by decide) t
  · exact Text.trimEnd_concat (by decide) t

/-- Behind a sign that awaits a value, blanks make a property whose value is empty, and nothing
makes no declaration. -/
theorem AwaitsValue.ofCode? {s v code code' : Text} (h : AwaitsValue s) (hne : v ≠ [])
    (hv : Text.blank v = true) (hl : Text.firstLine (Text.trim code) = s)
    (hl' : Text.firstLine (Text.trim code') = s ++ v) (offset : Int) (blocks : List OwnerBlock) :
    Declaration.ofCode? code offset blocks = none ∧
      ∃ d, Declaration.ofCode? code' offset blocks = some d ∧ d.kind = .property ∧
        d.value = some [] := by
  have hempty : beginsFunction [] = false := beginsFunction_of_blank Text.blank_nil
  cases h with
  | @path o x b ho hx hb =>
    have hline : (o ++ '.' :: (x ++ (b ++ ['=']))) ++ v = o ++ '.' :: (x ++ (b ++ '=' :: v)) := by
      simp
    rw [hline] at hl'
    obtain ⟨_, -, hnone⟩ := exists_ofCode?_path ho hx hb hl
    obtain ⟨_, -, hsome⟩ := exists_ofCode?_path ho hx hb hl'
    rw [hnone, hsome, hempty, beginsFunction_of_blank hv, value?_of_blank hv hne]
    exact ⟨rfl, _, rfl, rfl, rfl⟩
  | @name x b hx hb =>
    have hline : (x ++ (b ++ [':'])) ++ v = x ++ (b ++ ':' :: v) := by simp
    rw [hline] at hl'
    rw [ofCode?_member hx hb hl, ofCode?_member hx hb hl', hempty, beginsFunction_of_blank hv,
      value?_of_blank hv hne]
    exact ⟨rfl, _, rfl, rfl, rfl⟩

section

variable {l rest : Text}

/-- With something on a later line the first line of code is as it is written. -/
theorem firstLine_trim_more (hfront : ∀ c ∈ l.head?, isBlank c = false) (hne : l ≠ [])
    (hline : '\n' ∉ l) (hrest : Text.blank rest = false) :
    Text.firstLine (Text.trim (l ++ '\n' :: rest)) = l := by
  obtain ⟨a, y, b, rfl, hy⟩ := Text.exists_append_cons_of_not_blank hrest
  have hstart : Text.trimStart (l ++ '\n' :: a) = l ++ '\n' :: a := by
    apply Text.trimStart_of_front
    rwa [List.head?_append_of_ne_nil l hne]
  have hmore : '\n' ∈ Text.trimStart (l ++ '\n' :: a) := by
    rw [hstart]
    exact List.mem_append_right l List.mem_cons_self
  have hcode : l ++ '\n' :: (a ++ y :: b) = (l ++ '\n' :: a) ++ y :: b := by simp
  rw [hcode, Text.firstLine_trim_append hmore hy, hstart, Text.firstLine_line_append hline]

/-- A line of code alone is without the blanks at its end. -/
theorem firstLine_trim_line (hfront : ∀ c ∈ l.head?, isBlank c = false) (hline : '\n' ∉ l) :
    Text.firstLine (Text.trim l) = Text.trimEnd l := by
  rw [Text.trim, Text.trimStart_of_front hfront]
  exact Text.firstLine_of_not_mem fun h => hline ((Text.trimEnd_prefix l).subset h)

/-- Code declares what its first line alone declares, exactly when no blanks stand at the end of the
line where its value is awaited.  With such blanks and a later line a property is declared that has
an empty value; without the later line nothing is. -/
theorem ofCode?_firstLine_iff (hfront : ∃ c t, l = c :: t ∧ isBlank c = false) (hline : '\n' ∉ l)
    (hrest : Text.blank rest = false) (offset : Int) (blocks : List OwnerBlock) :
    (ofCode? (l ++ '\n' :: rest) offset blocks = ofCode? l offset blocks ↔ ¬ LacksValue l) ∧
    (LacksValue l →
      ofCode? l offset blocks = none ∧
        ∃ d, ofCode? (l ++ '\n' :: rest) offset blocks = some d ∧ d.kind = .property ∧
          d.value = some []) := by
  have hne : l ≠ [] := by
    obtain ⟨c, t, rfl, -⟩ := hfront
    exact List.cons_ne_nil c t
  have hhead : ∀ c ∈ l.head?, isBlank c = false := by
    obtain ⟨c, t, rfl, hc⟩ := hfront
    simpa using hc
  have hmore := firstLine_trim_more hhead hne hline hrest
  have halone := firstLine_trim_line hhead hline
  have hlacks : LacksValue l →
      ofCode? l offset blocks = none ∧
        ∃ d, ofCode? (l ++ '\n' :: rest) offset blocks = some d ∧ d.kind = .property ∧
          d.value = some [] := by
    rintro ⟨s, v, rfl, hv, hblank, hs⟩
    rw [Text.trimEnd_append_of_blank hblank, hs.trimEnd_eq] at halone
    exact hs.ofCode? hv hblank halone hmore offset blocks
  refine ⟨⟨fun heq h => ?_, fun h => ?_⟩, hlacks⟩
  · obtain ⟨hnone, d, hd, -⟩ := hlacks h
    rw [heq, hnone] at hd
    cases hd
  · obtain ⟨v, hv, hblank⟩ := Text.exists_trimEnd_append l
    rw [ofCode?, hmore, ofCode?, halone]
    by_cases hempty : v = []
    · rw [hempty, List.append_nil] at hv
      rw [← hv]
    · have hs : ¬ AwaitsValue (Text.trimEnd l) := fun hs => h ⟨_, v, hv, hempty, hblank, hs⟩
      exact (onLine?_of_pads ⟨v, hblank, hv⟩ hs Shape.order offset blocks).symm

/-- Blanks behind a value, and another line. -/
theorem ofCode?_firstLine_valued :
    ('\n' ∉ "Widget.size = 10;  ".toList ∧ Text.blank "Widget.name".toList = false) ∧
      ofCode? "Widget.size = 10;  \nWidget.name".toList 0 [] =
        ofCode? "Widget.size = 10;  ".toList 0 [] := by
  have hfront : ∃ c t, "Widget.size = 10;  ".toList = c :: t ∧ isBlank c = false :=
    ⟨'W', "idget.size = 10;  ".toList, by decide, by decide⟩
  have hline : '\n' ∉ "Widget.size = 10;  ".toList := by decide
  have hrest : Text.blank "Widget.name".toList = false := by decide
  refine ⟨⟨hline, hrest⟩, (ofCode?_firstLine_iff hfront hline hrest 0 []).1.mpr ?_⟩
  rintro ⟨s, v, hl, -, hblank, hs⟩
  have htrim : Text.trimEnd "Widget.size = 10;  ".toList = s := by
    rw [hl, Text.trimEnd_append_of_blank hblank, hs.trimEnd_eq]
  -- the line ends with the semicolon, which is no sign
  obtain ⟨t, c, rfl, hc⟩ := hs.exists_concat
  have hlast : (Text.trimEnd "Widget.size = 10;  ".toList).getLast? = some c := by
    rw [htrim, List.getLast?_concat]
  have hend : (Text.trimEnd "Widget.size = 10;  ".toList).getLast? = some ';' := by
    decide +kernel
  obtain rfl : ';' = c := Option.some.inj (hend.symm.trans hlast)
  exact absurd hc (by decide)

/-- A path, an equals sign, a blank, and the value on the next line. -/
theorem not_ofCode?_firstLine :
    ¬ ∀ (l rest : Text) (offset : Int) (blocks : List OwnerBlock),
      (∃ c t, l = c :: t ∧ isBlank c = false) → '\n' ∉ l → Text.blank rest = false →
        ofCode? (l ++ '\n' :: rest) offset blocks = ofCode? l offset blocks := by
  intro h
  have heq := h "a.b = ".toList "foo".toList 0 [] ⟨'a', _, rfl, by decide⟩ (by decide) (by decide)
  exact absurd heq (by decide +kernel)

end

end Declaration

end Docblock
