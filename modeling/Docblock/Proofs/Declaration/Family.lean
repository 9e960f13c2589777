/-
# Docblock.Proofs.Declaration.Family — families of shapes.

Nine shapes are tried on a line, but few of them compete.  What stands at the front of a line tells
which may read it at all: the dotted path there, the first sign behind it, and the keyword it begins
with.  A path with a dot in it is assigned to; behind the name of a member in shorthand comes a
colon; all else that is read is a function statement or a new variable.  Shapes that may read one
line form a family (`family_of_read?`), and only within a family does the order of shapes matter.
Main statement: the families have no line in common, so the order of shapes of different families is
free, and the block around a line shows in the scope and the string of a member in shorthand alone
(`families_independent`).
-/
import Docblock.Proofs.Declaration.Piece
import Docblock.Proofs.Declaration.Shape

namespace Docblock

namespace Declaration

/-! ## Families -/

/-- The families of shapes. -/
inductive Family where
  /-- A function statement. -/
  | statement
  /-- A new variable, with a function or anything else for its value. -/
  | introduction
  /-- An assignment to a dotted path. -/
  | assignment
  /-- A member in shorthand. -/
  | member
  deriving DecidableEq, Repr

/-- The family of a shape. -/
def Shape.family : Shape → Family
  | functionStatement => .statement
  | functionExpression | bareVariable => .introduction
  | prototypeMethod | prototypeProperty | method | property => .assignment
  | shorthandMethod | shorthandProperty => .member

theorem Shape.isScoped_iff {shape : Shape} : shape.isScoped = true ↔ shape.family = .member := by
  cases shape <;> decide

/-- The family whose shapes may read a line. -/
def familyOf (s : Text) : Family :=
  if '.' ∈ s.takeWhile isPath then .assignment
  else if ((s.dropWhile isPath).dropWhile isIndent).head? = some ':' then .member
  else if Text.beginsWith "function ".toList s then .statement
  else .introduction

/-! ## What the front of a line tells -/

theorem familyOf_path {o : Text} (ho : ∀ c ∈ o, isPath c = true) (t : Text) :
    familyOf (o ++ '.' :: t) = .assignment := by
  have hdot : isPath '.' = true := by decide +kernel
  rw [familyOf, List.takeWhile_append_of_pos ho, List.takeWhile_cons_of_pos hdot, if_pos (by simp)]

/-- Behind a first word without dots, the sign that follows and the keyword tell the family. -/
theorem familyOf_word {w r : Text} (hw : ∀ c ∈ w, isIdentifier c = true)
    (hr : Text.Stops isPath r) :
    familyOf (w ++ r) =
      if (r.dropWhile isIndent).head? = some ':' then .member
      else if "function ".toList <+: w ++ r then .statement
      else .introduction := by
  have hpath : ∀ c ∈ w, isPath c = true := fun c hc => isPath_of_isIdentifier (hw c hc)
  have hdot : '.' ∉ w := by
    intro hd
    have hi := hw '.' hd
    rw [isIdentifier_dot] at hi
    exact absurd hi (by decide)
  rw [familyOf, Text.takeWhile_append_of_stops hpath hr, Text.dropWhile_append_of_stops hpath hr,
    if_neg hdot]
  simp only [Text.beginsWith_iff]

theorem IsGap.head?_dropWhile {b r : Text} {sign : Char} (hb : IsGap b)
    (hs : isIndent sign = false) : ((b ++ sign :: r).dropWhile isIndent).head? = some sign := by
  rw [Text.dropWhile_append_of_stops hb (Text.stops_cons.mpr hs)]
  rfl

/-- A line that begins with a name and a sign other than the colon. -/
theorem familyOf_name {x b r : Text} {sign : Char} (hx : ∀ c ∈ x, isIdentifier c = true)
    (hb : IsGap b) (hs : isPath sign = false) (hi : isIndent sign = false) :
    familyOf (x ++ (b ++ sign :: r)) =
      if sign = ':' then .member
      else if "function ".toList <+: x ++ (b ++ sign :: r) then .statement
      else .introduction := by
  rw [familyOf_word hx (hb.stops_path hs)]
  simp only [hb.head?_dropWhile hi, Option.some.injEq]

/-- Spaces between a keyword and a name are all in front of the name. -/
theorem head?_dropWhile_spaces {s x r : Text} (hx : IsName x)
    (h : s.dropWhile (· == ' ') = x ++ r) : (s.dropWhile isIndent).head? ≠ some ':' := by
  obtain ⟨c, t, rfl⟩ := List.exists_cons_of_ne_nil hx.ne_nil
  have hc : isIdentifier c = true := hx.identifier c List.mem_cons_self
  have hgap : ∀ d ∈ s.takeWhile (· == ' '), isIndent d = true := by
    intro d hd
    have hd : d = ' ' := by simpa using List.mem_takeWhile_imp hd
    rw [hd]
    decide
  have hs : s = s.takeWhile (· == ' ') ++ (c :: t ++ r) := by
    rw [← h]
    exact List.takeWhile_append_dropWhile.symm
  have hdrop : s.dropWhile isIndent = c :: t ++ r := by
    rw [hs]
    exact Text.dropWhile_append_of_stops hgap (Text.stops_cons.mpr (isIndent_of_isIdentifier hc))
  rw [hdrop]
  intro he
  have he : c = ':' := Option.some.inj he
  rw [he] at hc
  exact absurd hc (by decide +kernel)

/-- A keyword, a space and a name. -/
theorem familyOf_keyword {w s x r : Text} (hw : ∀ c ∈ w, isIdentifier c = true) (hx : IsName x)
    (h : s.dropWhile (· == ' ') = x ++ r) :
    familyOf (w ++ ' ' :: s) =
      if "function ".toList <+: w ++ ' ' :: s then .statement else .introduction := by
  have hspace : isPath ' ' = false := isPath_of_isIndent (by decide)
  rw [familyOf_word hw (Text.stops_cons.mpr hspace), List.dropWhile_cons_of_pos (by decide),
    if_neg (head?_dropWhile_spaces hx h)]

theorem not_function_prefix_var (r : Text) : ¬ "function ".toList <+: "var".toList ++ r := by
  intro h
  exact absurd (List.cons_prefix_cons.mp h).1 (by decide)

/-! ## A line is read within its family -/

theorem isIdentifier_var : ∀ c ∈ "var".toList, isIdentifier c = true :=
  List.all_eq_true.mp (by decide +kernel)

theorem isIdentifier_function : ∀ c ∈ "function".toList, isIdentifier c = true :=
  List.all_eq_true.mp (by decide +kernel)

theorem familyOf_of_dotted? {s o x r : Text} (h : dotted? s = some (o, x, r)) :
    familyOf s = .assignment := by
  obtain ⟨ho, -, -, rfl⟩ := dotted?_eq_some_iff.mp h
  exact familyOf_path ho.path _

theorem familyOf_of_prototyped? {s o x r : Text} (h : prototyped? s = some (o, x, r)) :
    familyOf s = .assignment := by
  obtain ⟨ho, -, -, rfl⟩ := prototyped?_eq_some_iff.mp h
  exact familyOf_path (fun c hc => isPath_of_isIdentifier (ho.identifier c hc)) _

theorem familyOf_of_colon {s x r t : Text} (h : identifier? s = some (x, r))
    (ht : behindSign? ':' r = some t) : familyOf s = .member := by
  obtain ⟨hx, -, rfl⟩ := identifier?_eq_some_iff.mp h
  obtain ⟨b, hb, rfl⟩ := (behindSign?_eq_some_iff (by decide)).mp ht
  rw [familyOf_name hx.identifier hb (by decide +kernel) (by decide), if_pos rfl]

/-- A shape reads lines of its family only. -/
theorem family_of_read? {shape : Shape} {s : Text} {r : Reading} (h : shape.read? s = some r) :
    shape.family = familyOf s := by
  cases shape with
    simp only [Shape.read?, Option.bind_eq_bind, Option.bind_eq_some_iff] at h
  | functionStatement =>
    obtain ⟨t, ht, ⟨x, t'⟩, hx, -⟩ := h
    obtain ⟨hname, -, rfl⟩ := identifier?_eq_some_iff.mp hx
    have hs : s = "function ".toList ++ (x ++ t') := Text.after?_eq_some_iff.mp ht
    have hs : s = "function".toList ++ ' ' :: (x ++ t') := hs
    have hdrop : (x ++ t').dropWhile (· == ' ') = x ++ t' :=
      hname.dropWhile_spaces [] (fun _ hc => absurd hc List.not_mem_nil) t'
    rw [hs, familyOf_keyword isIdentifier_function hname hdrop, if_pos ⟨_, rfl⟩]
    rfl
  | functionExpression =>
    obtain ⟨t, ht, ⟨x, t'⟩, hx, u, hu, -⟩ := h
    obtain ⟨hname, -, hdrop⟩ := identifier?_eq_some_iff.mp hx
    obtain ⟨b, hb, rfl⟩ := (behindSign?_eq_some_iff (by decide)).mp hu
    have hs : s = "var".toList ++ t := Text.after?_eq_some_iff.mp ht
    -- no space need stand behind the keyword, and then the name goes on with it
    by_cases hspace : [' '] <+: t
    · obtain ⟨t, rfl⟩ := hspace
      have hdrop : t.dropWhile (· == ' ') = x ++ (b ++ '=' :: u) := hdrop
      rw [hs]
      show _ = familyOf ("var".toList ++ ' ' :: t)
      rw [familyOf_keyword isIdentifier_var hname hdrop, if_neg (not_function_prefix_var _)]
      rfl
    · have ht : t = x ++ (b ++ '=' :: u) := by
        rw [← hdrop]
        cases t with
        | nil => rfl
        | cons c t =>
          refine (List.dropWhile_cons_of_neg ?_).symm
          rw [beq_iff_eq]
          rintro rfl
          exact hspace ⟨t, rfl⟩
      have hword : ∀ c ∈ "var".toList ++ x, isIdentifier c = true := by
        intro c hc
        exact (List.mem_append.mp hc).elim (isIdentifier_var c) (hname.identifier c)
      rw [hs, ht, ← List.append_assoc, familyOf_name hword hb (by decide +kernel) (by decide),
        if_neg (by decide), List.append_assoc, if_neg (not_function_prefix_var _)]
      rfl
  | prototypeMethod =>
    obtain ⟨⟨o, x, t⟩, hx, -⟩ := h
    exact (familyOf_of_prototyped? hx).symm
  | prototypeProperty =>
    obtain ⟨⟨o, x, t⟩, hx, -⟩ := h
    exact (familyOf_of_prototyped? hx).symm
  | method =>
    obtain ⟨⟨o, x, t⟩, hx, -⟩ := h
    exact (familyOf_of_dotted? hx).symm
  | shorthandMethod =>
    obtain ⟨⟨x, t⟩, hx, u, hu, -⟩ := h
    exact (familyOf_of_colon hx hu).symm
  | property =>
    obtain ⟨⟨o, x, t⟩, hx, -⟩ := h
    exact (familyOf_of_dotted? hx).symm
  | shorthandProperty =>
    obtain ⟨⟨x, t⟩, hx, u, hu, -⟩ := h
    exact (familyOf_of_colon hx hu).symm
  | bareVariable =>
    obtain ⟨t, ht, ⟨x, t'⟩, hx, -⟩ := h
    obtain ⟨hname, -, hdrop⟩ := identifier?_eq_some_iff.mp hx
    have hs : s = ['v', 'a', 'r', ' '] ++ t := Text.after?_eq_some_iff.mp ht
    have hs : s = "var".toList ++ ' ' :: t := hs
    rw [hs, familyOf_keyword isIdentifier_var hname hdrop, if_neg (not_function_prefix_var _)]
    rfl

theorem read?_eq_none_of_family {shape : Shape} {s : Text} (h : shape.family ≠ familyOf s) :
    shape.read? s = none := by
  rw [Option.eq_none_iff_forall_ne_some]
  intro r hr
  exact h (family_of_read? hr)

/-! ## The order of shapes -/

theorem findSome?_filter {α β : Type} {p : α → Bool} {f : α → Option β} (l : List α)
    (h : ∀ a ∈ l, p a = false → f a = none) : (l.filter p).findSome? f = l.findSome? f := by
  induction l with
  | nil => rfl
  | cons a l ih =>
    have ih := ih fun b hb => h b (List.mem_cons_of_mem a hb)
    rw [List.filter_cons, List.findSome?_cons]
    split
    · rw [List.findSome?_cons, ih]
    · next hp => rw [h a List.mem_cons_self (Bool.eq_false_iff.mpr hp), ih]

/-- Only the shapes of its family matter to a line. -/
theorem onLine?_filter (shapes : List Shape) (s : Text) (offset : Int)
    (blocks : List OwnerBlock) :
    onLine? (shapes.filter (·.family = familyOf s)) s offset blocks =
      onLine? shapes s offset blocks := by
  apply findSome?_filter
  intro shape _ hne
  rw [read?_eq_none_of_family (of_decide_eq_false hne)]
  rfl

/-- What code declares is read by the shapes of the family of its first line. -/
theorem ofCode?_of_family {code : Text} {f : Family}
    (h : familyOf (Text.firstLine (Text.trim code)) = f) (offset : Int)
    (blocks : List OwnerBlock) :
    ofCode? code offset blocks =
      onLine? (Shape.order.filter (·.family = f)) (Text.firstLine (Text.trim code)) offset
        blocks := by
  rw [ofCode?, ← onLine?_filter, h]

section

variable {s : Text} {shape m p : Shape} {offset : Int} {blocks : List OwnerBlock}

/-- A shape that does not read the line may be left out. -/
theorem onLine?_cons_of_none (h : shape.read? s = none) (shapes : List Shape) :
    onLine? (shape :: shapes) s offset blocks = onLine? shapes s offset blocks := by
  rw [onLine?, List.findSome?_cons, h]
  rfl

/-- Two shapes that share a right-hand side, the first of which reads a function there: when the
shapes behind them read no more than these do, the two decide alone. -/
theorem onLine?_pair {f : Bool} {rd : Reading} {other : Option Reading}
    (hm : m.read? s = if f then some rd else none) (hp : p.read? s = other) (shapes : List Shape)
    (hrest : f = false → other = none → onLine? shapes s offset blocks = none) :
    onLine? (m :: p :: shapes) s offset blocks =
      if f then
        some (ofReading rd (if m.isScoped then OwnerBlock.ownerAt offset blocks else none) m)
      else other.map fun rd =>
        ofReading rd (if p.isScoped then OwnerBlock.ownerAt offset blocks else none) p := by
  cases f with
  | true =>
    rw [onLine?, List.findSome?_cons, hm]
    rfl
  | false =>
    rw [onLine?_cons_of_none hm, onLine?, List.findSome?_cons, hp]
    cases other with
    | none => exact hrest rfl rfl
    | some rd => rfl

end

/-- An order of the shapes in which those of each family follow one another as in the usual one. -/
def KeepsFamilies (shapes : List Shape) : Prop :=
  ∀ f : Family, shapes.filter (·.family = f) = Shape.order.filter (·.family = f)

instance (shapes : List Shape) : Decidable (KeepsFamilies shapes) :=
  decidable_of_iff
    (∀ f ∈ [Family.statement, .introduction, .assignment, .member],
      shapes.filter (·.family = f) = Shape.order.filter (·.family = f))
    ⟨fun h f => h f (by cases f <;> decide), fun h f _ => h f⟩

/-- Such an order is one of all nine shapes, each in one place. -/
theorem KeepsFamilies.perm {shapes : List Shape} (h : KeepsFamilies shapes) :
    shapes.Perm Shape.order := by
  rw [List.perm_iff_count]
  intro shape
  have hcount (l : List Shape) : (l.filter (·.family = shape.family)).count shape = l.count shape :=
    List.count_filter (by simp)
  rw [← hcount shapes, h, hcount]

/-! ## The block around a line -/

/-- Declarations that agree in all but the owner in the scope and the string. -/
structure SameButOwner (d d' : Declaration) : Prop where
  kind : d'.kind = d.kind
  name : d'.name = d.name
  value : d'.value = d.value
  membership : d'.scope.map (·.membership) = d.scope.map (·.membership)

theorem sameButOwner_ofReading (r : Reading) (owner owner' : Option Text) (shape : Shape) :
    SameButOwner (ofReading r owner shape) (ofReading r owner' shape) := by
  cases shape <;> exact ⟨rfl, rfl, rfl, rfl⟩

/-- The owner around a line is at most a matter of the scope and the string, and it is none at all
unless a member in shorthand stands there. -/
theorem exists_ofCode?_of_ofCode? {code : Text} {offset : Int} {blocks : List OwnerBlock}
    {d : Declaration} (h : ofCode? code offset blocks = some d) (offset' : Int)
    (blocks' : List OwnerBlock) :
    ∃ d', ofCode? code offset' blocks' = some d' ∧ SameButOwner d d' ∧
      (familyOf (Text.firstLine (Text.trim code)) ≠ .member → d' = d) := by
  rw [ofCode?_eq_bind_shape?] at h
  obtain ⟨shape, hshape, h⟩ := Option.bind_eq_some_iff.mp h
  obtain ⟨r, hr, rfl⟩ := Option.map_eq_some_iff.mp h
  refine ⟨ofReading r (if shape.isScoped then OwnerBlock.ownerAt offset' blocks' else none) shape,
    ?_, sameButOwner_ofReading r _ _ shape, ?_⟩
  · rw [ofCode?_eq_bind_shape?, hshape, Option.bind_some, hr]
    rfl
  · intro hne
    have hs : ¬ shape.isScoped = true := by
      rw [Shape.isScoped_iff, family_of_read? hr]
      exact hne
    rw [if_neg hs, if_neg hs]

/-! ## Main statement -/

/-- All shapes that read one line are of one family.  So the shapes may be tried in any order of
theirs that keeps the order within each family, and the block around a line can change the owner in
the scope and the string only, and these only when a shape of a member in shorthand reads the
line. -/
theorem families_independent :
    (∀ (s : Text) (a b : Shape), (a.read? s).isSome = true → (b.read? s).isSome = true →
      a.family = b.family) ∧
    (∀ shapes : List Shape, KeepsFamilies shapes → shapes.Perm Shape.order ∧
      ∀ (code : Text) (offset : Int) (blocks : List OwnerBlock),
        onLine? shapes (Text.firstLine (Text.trim code)) offset blocks =
          ofCode? code offset blocks) ∧
    (∀ (code : Text) (offset offset' : Int) (blocks blocks' : List OwnerBlock) (d : Declaration),
      ofCode? code offset blocks = some d →
        ∃ d', ofCode? code offset' blocks' = some d' ∧ SameButOwner d d' ∧
          ((∀ shape : Shape, shape.family = .member →
            shape.read? (Text.firstLine (Text.trim code)) = none) → d' = d)) := by
  refine ⟨?_, ?_, ?_⟩
  · intro s a b ha hb
    obtain ⟨r, hr⟩ := Option.isSome_iff_exists.mp ha
    obtain ⟨r', hr'⟩ := Option.isSome_iff_exists.mp hb
    rw [family_of_read? hr, family_of_read? hr']
  · intro shapes h
    refine ⟨h.perm, fun code offset blocks => ?_⟩
    rw [ofCode?, ← onLine?_filter shapes, h, onLine?_filter]
  · intro code offset offset' blocks blocks' d hd
    obtain ⟨d', hd', hsame, heq⟩ := exists_ofCode?_of_ofCode? hd offset' blocks'
    refine ⟨d', hd', hsame, fun hnone => ?_⟩
    by_cases hf : familyOf (Text.firstLine (Text.trim code)) = .member
    · -- the shape that reads the line would be one of a member
      rw [ofCode?_eq_bind_shape?] at hd
      obtain ⟨shape, -, hd⟩ := Option.bind_eq_some_iff.mp hd
      obtain ⟨r, hr, -⟩ := Option.map_eq_some_iff.mp hd
      rw [hnone shape ((family_of_read? hr).trans hf)] at hr
      cases hr
    · exact heq hf

/-- Two shapes that read a member in shorthand, an order that turns the families round, and a path
with its own owner in a block and outside. -/
theorem families_independent_reordered :
    (Shape.shorthandMethod.read? "render: function() \x7b".toList).isSome = true ∧
    (Shape.shorthandProperty.read? "render: function() \x7b".toList).isSome = true ∧
    Shape.shorthandMethod.family = Shape.shorthandProperty.family ∧
    (∃ shapes, KeepsFamilies shapes ∧ shapes ≠ Shape.order ∧
      onLine? shapes (Text.firstLine (Text.trim "render: function() \x7b".toList)) 30
          [⟨"Widget".toList, 10, 50⟩] =
        ofCode? "render: function() \x7b".toList 30 [⟨"Widget".toList, 10, 50⟩]) ∧
    ∃ d, ofCode? "utils.size = 10;".toList 30 [⟨"Widget".toList, 10, 50⟩] = some d ∧
      ofCode? "utils.size = 10;".toList 60 [] = some d := by
  have hmethod : (Shape.shorthandMethod.read? "render: function() \x7b".toList).isSome = true := by
    decide +kernel
  have hproperty :
      (Shape.shorthandProperty.read? "render: function() \x7b".toList).isSome = true := by
    decide +kernel
  obtain ⟨hfamily, horder, hblock⟩ := families_independent
  have hkeeps : KeepsFamilies [.shorthandMethod, .shorthandProperty, .functionExpression,
      .bareVariable, .prototypeMethod, .prototypeProperty, .method, .property,
      .functionStatement] := by
    decide
  refine ⟨hmethod, hproperty, hfamily _ _ _ hmethod hproperty,
    ⟨_, hkeeps, by decide, (horder _ hkeeps).2 _ _ _⟩, ?_⟩
  obtain ⟨d, hd⟩ : ∃ d, ofCode? "utils.size = 10;".toList 30 [⟨"Widget".toList, 10, 50⟩] = some d :=
    Option.isSome_iff_exists.mp (by decide +kernel)
  obtain ⟨d', hd', -, heq⟩ := hblock _ 30 60 _ [] d hd
  have hnone : ∀ shape : Shape, shape.family = .member →
      shape.read? (Text.firstLine (Text.trim "utils.size = 10;".toList)) = none := by
    intro shape hshape
    cases shape <;> first | exact absurd hshape (by decide) | decide +kernel
  refine ⟨d, hd, ?_⟩
  rw [hd', heq hnone]

end Declaration

end Docblock
