/-
# Docblock.Proofs.Declaration.Keyword — how a right-hand side is told to be a function.

A new variable, an assignment to a path and a member in shorthand all give a name a right-hand side,
and whether a function is declared hangs on how it begins.  It is the letters `function` that count,
not the word: a value whose own name goes on behind these letters is taken for a function as well.
Main statement: which of the two is declared, with the value of what is no function, and that the
word may be said for the letters exactly when no longer word begins with them
(`decidedBy_keyword_iff`).
-/
import Docblock.Proofs.Declaration.Assignment

namespace Docblock

open Text (Stops)

namespace Declaration

/-! ## Right-hand sides behind a gap -/

section

variable {b r : Text}

theorem beginsFunction_gap (hb : IsGap b) (hr : Stops isIndent r) :
    beginsFunction (b ++ r) = true ↔ "function".toList <+: r := by
  rw [beginsFunction, Text.dropWhile_append_of_stops hb hr, Text.beginsWith_iff]

theorem HasValue.gap (hb : IsGap b) (h : HasValue r) : HasValue (b ++ r) := by
  cases b with
  | nil => exact h
  | cons c b =>
    refine ⟨c, b ++ r, rfl, ?_⟩
    rintro rfl
    exact absurd (hb ';' List.mem_cons_self) (by decide)

theorem valueOf_gap (hb : IsGap b) : valueOf (b ++ r) = valueOf r := by
  have hne : ∀ c ∈ b, (c != ';') = true := by
    intro c hc
    rw [bne_iff_ne]
    rintro rfl
    exact absurd (hb ';' hc) (by decide)
  have hblank : Text.blank b = true :=
    Text.blank_iff.mpr fun c hc => isBlank_of_isIndent (hb c hc)
  rw [valueOf, List.takeWhile_append_of_pos hne, valueOf, Text.trim,
    Text.trimStart_append_of_blank hblank]
  rfl

/-- The gap in front of a right-hand side is no part of its value. -/
theorem value?_gap (hb : IsGap b) (h : HasValue r) : value? (b ++ r) = some (valueOf r) := by
  rw [value?_of_hasValue (h.gap hb), valueOf_gap hb]

end

/-! ## New variables and members in shorthand -/

section

variable {code sp x b r : Text}

/-- What the two shapes for a new variable read when the name has a right-hand side. -/
theorem read?_of_introduction {s : Text} (hx : IsName x) (hb : IsGap b)
    (h : s.dropWhile (· == ' ') = x ++ (b ++ '=' :: r)) :
    Shape.functionExpression.read? ("var".toList ++ ' ' :: s) =
        (if beginsFunction r then some ⟨[], x, []⟩ else none) ∧
      Shape.bareVariable.read? ("var".toList ++ ' ' :: s) =
        some ⟨[], x, (value? r).getD []⟩ := by
  have hspace : (' ' :: s).dropWhile (· == ' ') = x ++ (b ++ '=' :: r) := by
    rw [List.dropWhile_cons_of_pos (by decide), h]
  have hafter : Text.after? ['v', 'a', 'r', ' '] ("var".toList ++ ' ' :: s) = some s :=
    Text.after?_append ['v', 'a', 'r', ' '] s
  have hname : identifier? (x ++ (b ++ '=' :: r)) = some (x, b ++ '=' :: r) :=
    identifier?_eq_some_iff.mpr ⟨hx, stops_gap_equals hb, rfl⟩
  have hr := behindSign?_gap '=' (by decide) hb r
  simp only [Shape.read?, Option.bind_eq_bind, Text.after?_append, hafter, Option.bind_some, hspace,
    h, hname, hr, and_self]

/-- What a new variable with a right-hand side declares. -/
theorem ofCode?_introduction (hne : sp ≠ []) (hsp : ∀ c ∈ sp, c = ' ') (hx : IsName x)
    (hb : IsGap b)
    (hl : Text.firstLine (Text.trim code) =
      "var".toList ++ (sp ++ (x ++ (b ++ '=' :: r)))) (offset : Int) (blocks : List OwnerBlock) :
    ofCode? code offset blocks =
      if beginsFunction r then some { kind := .function, name := x, string := called x }
      else some { kind := .declaration, name := x, string := x,
                  value := some ((value? r).getD []) } := by
  obtain ⟨c, t, rfl⟩ := List.exists_cons_of_ne_nil hne
  obtain rfl : c = ' ' := hsp c List.mem_cons_self
  have hdrop : (t ++ (x ++ (b ++ '=' :: r))).dropWhile (· == ' ') = x ++ (b ++ '=' :: r) :=
    hx.dropWhile_spaces t (fun c hc => hsp c (List.mem_cons_of_mem _ hc)) _
  obtain ⟨hfunction, hvariable⟩ := read?_of_introduction hx hb hdrop
  have hfam : familyOf (Text.firstLine (Text.trim code)) = .introduction := by
    rw [hl, List.cons_append, familyOf_keyword isIdentifier_var hx hdrop,
      if_neg (not_function_prefix_var _)]
  have hshapes : Shape.order.filter (·.family = Family.introduction) =
      [.functionExpression, .bareVariable] := by decide
  rw [ofCode?_of_family hfam, hshapes, hl, List.cons_append,
    onLine?_pair hfunction hvariable [] fun _ _ => rfl]
  rfl

/-- What a member in shorthand declares. -/
theorem ofCode?_member (hx : IsName x) (hb : IsGap b)
    (hl : Text.firstLine (Text.trim code) = x ++ (b ++ ':' :: r)) (offset : Int)
    (blocks : List OwnerBlock) :
    ofCode? code offset blocks =
      if beginsFunction r then
        some { kind := .method, name := x,
               string := called (memberText (OwnerBlock.ownerAt offset blocks) x),
               scope := some ⟨OwnerBlock.ownerAt offset blocks, .ofInstance⟩ }
      else (value? r).map fun v =>
        { kind := .property, name := x,
          string := memberText (OwnerBlock.ownerAt offset blocks) x,
          scope := some ⟨OwnerBlock.ownerAt offset blocks, .ofInstance⟩,
          value := some (Text.trimEnd (Text.dropEndWhile (· == ',') v)) } := by
  have hname : identifier? (x ++ (b ++ ':' :: r)) = some (x, b ++ ':' :: r) :=
    identifier?_eq_some_iff.mpr
      ⟨hx, stops_identifier_of_stops_path (hb.stops_path isPath_colon), rfl⟩
  have hr := behindSign?_gap ':' (by decide) hb r
  have hmethod : Shape.shorthandMethod.read? (x ++ (b ++ ':' :: r)) =
      if beginsFunction r then some ⟨[], x, []⟩ else none := by
    simp only [Shape.read?, Option.bind_eq_bind, hname, Option.bind_some, hr]
  have hproperty : Shape.shorthandProperty.read? (x ++ (b ++ ':' :: r)) =
      (value? r).map fun v => ⟨[], x, Text.trimEnd (Text.dropEndWhile (· == ',') v)⟩ := by
    simp only [Shape.read?, Option.bind_eq_bind, hname, Option.bind_some, hr]
    cases value? r <;> rfl
  have hfam : familyOf (Text.firstLine (Text.trim code)) = .member := by
    rw [hl, familyOf_name hx.identifier hb isPath_colon (by decide), if_pos rfl]
  have hshapes : Shape.order.filter (·.family = Family.member) =
      [.shorthandMethod, .shorthandProperty] := by decide
  rw [ofCode?_of_family hfam, hshapes, hl, onLine?_pair hmethod hproperty [] fun _ _ => rfl,
    Option.map_map]
  rfl

end

/-! ## Letters and words -/

/-- A line of a family on which a name is given the right-hand side `r` behind spaces and tabs. -/
inductive Gives (r : Text) : Family → Text → Prop
  | introduction {sp x b b' : Text} (hne : sp ≠ []) (hsp : ∀ c ∈ sp, c = ' ') (hx : IsName x)
      (hb : IsGap b) (hb' : IsGap b') :
      Gives r .introduction ("var".toList ++ (sp ++ (x ++ (b ++ '=' :: (b' ++ r)))))
  | assignment {owner x b b' : Text} (howner : IsOwner owner) (hx : IsName x) (hb : IsGap b)
      (hb' : IsGap b') : Gives r .assignment (owner ++ '.' :: (x ++ (b ++ '=' :: (b' ++ r))))
  | member {x b b' : Text} (hx : IsName x) (hb : IsGap b) (hb' : IsGap b') :
      Gives r .member (x ++ (b ++ ':' :: (b' ++ r)))

/-- The value of a right-hand side on a line of a family: all in front of the first semicolon,
without blanks around it and, for a member in shorthand, without the commas that divide it from the
next one. -/
def valueIn (f : Family) (r : Text) : Text :=
  if f = .member then Text.trimEnd (Text.dropEndWhile (· == ',') (valueOf r)) else valueOf r

/-- What is declared is a function or a method. -/
def IsCallable (d : Declaration) : Prop := d.kind = .function ∨ d.kind = .method

/-- What is declared is a variable or a property. -/
def IsVariable (d : Declaration) : Prop := d.kind = .declaration ∨ d.kind = .property

theorem IsVariable.not_isCallable {d : Declaration} (h : d.IsVariable) : ¬ d.IsCallable := by
  rintro (hf | hm)
  · rcases h with h | h <;> rw [hf] at h <;> cases h
  · rcases h with h | h <;> rw [hm] at h <;> cases h

/-- A condition on the right-hand side `r` tells what is declared: something callable exactly when
it holds, and when it fails a value makes a variable or a property that has it. -/
structure DecidedBy (p : Prop) (f : Family) (r : Text) (declared : Option Declaration) : Prop where
  callable : (∃ d, declared = some d ∧ d.IsCallable) ↔ p
  valued : HasValue r → ¬ p →
    ∃ d, declared = some d ∧ d.IsVariable ∧ d.value = some (valueIn f r)

theorem decidedBy_of_ite {f : Family} {r : Text} {c : Bool} {declared : Option Declaration}
    {callable : Declaration} {other : Option Declaration}
    (h : declared = if c then some callable else other) (hc : callable.IsCallable)
    (hvar : ∀ d, other = some d → d.IsVariable)
    (hval : HasValue r → ∃ d, other = some d ∧ d.value = some (valueIn f r)) :
    DecidedBy (c = true) f r declared := by
  subst h
  constructor
  · cases c with
    | true => exact iff_of_true ⟨callable, rfl, hc⟩ rfl
    | false =>
      refine iff_of_false ?_ (by decide)
      rintro ⟨d, hd, hd'⟩
      exact (hvar d hd).not_isCallable hd'
  · intro hv hnot
    rw [if_neg hnot]
    obtain ⟨d, hd, hvalue⟩ := hval hv
    exact ⟨d, hd, hvar d hd, hvalue⟩

/-- Whatever the family, the letters of the keyword tell what a line declares that gives a name a
right-hand side. -/
theorem Gives.decidedBy {r line code : Text} {f : Family} (h : Gives r f line)
    (hr : Stops isIndent r) (hl : Text.firstLine (Text.trim code) = line) (offset : Int)
    (blocks : List OwnerBlock) :
    DecidedBy ("function".toList <+: r) f r (ofCode? code offset blocks) := by
  cases h with
  | introduction hne hsp hx hb hb' =>
    rw [← beginsFunction_gap hb' hr]
    refine decidedBy_of_ite (ofCode?_introduction hne hsp hx hb hl offset blocks) (.inl rfl) ?_ ?_
    · intro d hd
      obtain rfl := Option.some.inj hd
      exact .inl rfl
    · intro hv
      rw [value?_gap hb' hv]
      exact ⟨_, rfl, rfl⟩
  | assignment howner hx hb hb' =>
    obtain ⟨scope, -, hdeclares⟩ := exists_ofCode?_path howner hx hb hl
    rw [← beginsFunction_gap hb' hr]
    refine decidedBy_of_ite (hdeclares offset blocks) (.inr rfl) ?_ ?_
    · intro d hd
      obtain ⟨v, -, rfl⟩ := Option.map_eq_some_iff.mp hd
      exact .inr rfl
    · intro hv
      rw [value?_gap hb' hv]
      exact ⟨_, rfl, rfl⟩
  | member hx hb hb' =>
    rw [← beginsFunction_gap hb' hr]
    refine decidedBy_of_ite (ofCode?_member hx hb hl offset blocks) (.inr rfl) ?_ ?_
    · intro d hd
      obtain ⟨v, -, rfl⟩ := Option.map_eq_some_iff.mp hd
      exact .inr rfl
    · intro hv
      rw [value?_gap hb' hv]
      exact ⟨_, rfl, rfl⟩

/-- The right-hand side begins with the keyword for functions as a word of its own. -/
def OpensKeyword (r : Text) : Prop := ∃ t, r = "function".toList ++ t ∧ Stops isIdentifier t

/-- The right-hand side begins with a word that goes on behind the letters of the keyword. -/
def OpensLonger (r : Text) : Prop :=
  ∃ c t, r = "function".toList ++ c :: t ∧ isIdentifier c = true

theorem opensKeyword_iff {r : Text} :
    OpensKeyword r ↔ "function".toList <+: r ∧ ¬ OpensLonger r := by
  constructor
  · rintro ⟨t, rfl, ht⟩
    refine ⟨List.prefix_append _ t, ?_⟩
    rintro ⟨c, t', he, hc⟩
    rw [List.append_cancel_left he, Text.stops_cons, hc] at ht
    exact absurd ht (by decide)
  · rintro ⟨⟨t, rfl⟩, hlong⟩
    refine ⟨t, rfl, ?_⟩
    cases t with
    | nil => exact fun c hc => absurd hc (by simp)
    | cons c t =>
      rw [Text.stops_cons, Bool.eq_false_iff]
      exact fun hc => hlong ⟨c, t, rfl, hc⟩

/-- On a line that gives a name a right-hand side the letters of the keyword decide between what is
callable and what has a value.  The word decides exactly when it is not a longer one. -/
theorem decidedBy_keyword_iff {r line code : Text} {f : Family} (h : Gives r f line)
    (hr : Stops isIndent r) (hl : Text.firstLine (Text.trim code) = line) (offset : Int)
    (blocks : List OwnerBlock) :
    DecidedBy ("function".toList <+: r) f r (ofCode? code offset blocks) ∧
      (DecidedBy (OpensKeyword r) f r (ofCode? code offset blocks) ↔ ¬ OpensLonger r) := by
  have hletters := h.decidedBy hr hl offset blocks
  refine ⟨hletters, fun hword hlong => ?_, fun hlong => ?_⟩
  · -- the letters stand in front, so something callable is declared, but they are not the word
    obtain ⟨c, t, he, hc⟩ := hlong
    have hopens : OpensKeyword r := hword.callable.mp (hletters.callable.mpr ⟨c :: t, he.symm⟩)
    exact (opensKeyword_iff.mp hopens).2 ⟨c, t, he, hc⟩
  · have heq : OpensKeyword r = ("function".toList <+: r) := by
      rw [opensKeyword_iff, and_iff_left hlong]
    rw [heq]
    exact hletters

/-- A method in shorthand. -/
theorem decidedBy_keyword_member :
    Gives "function() \x7b".toList .member "render: function() \x7b".toList ∧
      DecidedBy (OpensKeyword "function() \x7b".toList) .member "function() \x7b".toList
        (ofCode? "render: function() \x7b".toList 0 []) := by
  have hx : IsName "render".toList := ⟨by decide, List.all_eq_true.mp (by decide +kernel)⟩
  have hgives : Gives "function() \x7b".toList .member "render: function() \x7b".toList :=
    Gives.member hx (b := []) (fun _ hc => absurd hc List.not_mem_nil) isGap_space
  have hstops : Stops isIndent "function() \x7b".toList := Text.stops_cons.mpr (by decide)
  have hlonger : ¬ OpensLonger "function() \x7b".toList := by
    rintro ⟨c, t, he, hc⟩
    have he : "function".toList ++ "() \x7b".toList = "function".toList ++ c :: t := he
    have hct : "() \x7b".toList = c :: t := List.append_cancel_left he
    obtain rfl := (List.cons.inj hct).1
    exact absurd hc (by decide +kernel)
  exact ⟨hgives,
    (decidedBy_keyword_iff hgives hstops (by decide +kernel) 0 []).2.mpr hlonger⟩

/-- A variable whose value is a name that goes on behind the letters of the keyword. -/
theorem not_decidedBy_keyword :
    ¬ ∀ (r line code : Text) (f : Family) (offset : Int) (blocks : List OwnerBlock),
      Gives r f line → Stops isIndent r → Text.firstLine (Text.trim code) = line →
        DecidedBy (OpensKeyword r) f r (ofCode? code offset blocks) := by
  intro h
  have hx : IsName "render".toList := ⟨by decide, List.all_eq_true.mp (by decide +kernel)⟩
  have hgives : Gives "functional;".toList .introduction "var render = functional;".toList :=
    Gives.introduction (List.cons_ne_nil ' ' []) (by simp) hx isGap_space isGap_space
  have hstops : Stops isIndent "functional;".toList := Text.stops_cons.mpr (by decide)
  have hword : ¬ OpensKeyword "functional;".toList := by
    rintro ⟨t, he, ht⟩
    have he : "function".toList ++ "al;".toList = "function".toList ++ t := he
    have htail : "al;".toList = t := List.append_cancel_left he
    subst htail
    exact absurd (ht 'a' rfl) (by decide +kernel)
  have hd : ofCode? "var render = functional;".toList 0 [] =
      some { kind := .function, name := "render".toList, string := "render()".toList } := by
    decide +kernel
  have hdecided := h _ _ "var render = functional;".toList _ 0 [] hgives hstops (by decide +kernel)
  exact hword (hdecided.callable.mp ⟨_, hd, .inl rfl⟩)

end Declaration

end Docblock
