/-
# Docblock.Proofs.Declaration.Assignment — what an assignment declares.

An assignment to a dotted path declares a member, and no block around it matters: the path names the
owner.  Its last dot divides the owner from the name, so nothing of the path is lost, and the word
`prototype` between two plain names makes the member one of instances
(`ofCode?_assignment`).  An assignment to a bare name has no owner and declares nothing, with one
exception: a name of four letters or more that begins with `var` is read as that keyword and a name
behind it when a function is assigned (`ofCode?_bareAssignment`).
-/
import Docblock.Proofs.Declaration.Family

namespace Docblock

open Text (Stops)

namespace Declaration

/-! ## Lines with an equals sign -/

theorem isPath_equals : isPath '=' = false := by decide +kernel

theorem isPath_colon : isPath ':' = false := by decide +kernel

theorem behindSign?_gap (sign : Char) (hs : isIndent sign = false) {b : Text} (hb : IsGap b)
    (r : Text) : behindSign? sign (b ++ sign :: r) = some r :=
  (behindSign?_eq_some_iff hs).mpr ⟨b, hb, rfl⟩

section

variable {s o x b r : Text}

/-- What the two shapes for an assignment around `prototype` read. -/
theorem read?_of_prototyped? (h : prototyped? s = some (o, x, b ++ '=' :: r)) (hb : IsGap b) :
    Shape.prototypeMethod.read? s = (if beginsFunction r then some ⟨o, x, []⟩ else none) ∧
      Shape.prototypeProperty.read? s = (value? r).map (⟨o, x, ·⟩) := by
  have hr := behindSign?_gap '=' (by decide) hb r
  simp only [Shape.read?, Option.bind_eq_bind, h, Option.bind_some, hr, true_and]
  cases value? r <;> rfl

theorem read?_of_not_prototyped?
    (h : (prototyped? s).bind (fun p => behindSign? '=' p.2.2) = none) :
    Shape.prototypeMethod.read? s = none ∧ Shape.prototypeProperty.read? s = none := by
  simp only [Shape.read?, Option.bind_eq_bind]
  cases hp : prototyped? s with
  | none => exact ⟨rfl, rfl⟩
  | some p =>
    have hr : behindSign? '=' p.2.2 = none := by simpa [hp] using h
    simp only [Option.bind_some, hr, Option.bind_none, and_self]

/-- What the two shapes for any other assignment to a path read. -/
theorem read?_of_dotted? (h : dotted? s = some (o, x, b ++ '=' :: r)) (hb : IsGap b) :
    Shape.method.read? s = (if beginsFunction r then some ⟨o, x, []⟩ else none) ∧
      Shape.property.read? s = (value? r).map (⟨o, x, ·⟩) := by
  have hr := behindSign?_gap '=' (by decide) hb r
  simp only [Shape.read?, Option.bind_eq_bind, h, Option.bind_some, hr, true_and]
  cases value? r <;> rfl

end

/-! ## Assignments to a path -/

/-- A path that is two names with the word `prototype` between them. -/
structure Prototyped (path o n : Text) : Prop where
  eq : path = o ++ (".prototype.".toList ++ n)
  ne_nil : o ≠ []
  owner : '.' ∉ o
  name : '.' ∉ n

/-- How the member at the end of a path belongs to its owner. -/
structure BelongsBy (owner name : Text) (scope : Scope) : Prop where
  ofInstance : ∀ o n, Prototyped (owner ++ '.' :: name) o n → scope = ⟨some o, .ofInstance⟩
  ofClass : (∀ o n, ¬ Prototyped (owner ++ '.' :: name) o n) → scope = ⟨some owner, .ofClass⟩

section

variable {owner name b r : Text}

theorem Prototyped.parts {o n : Text} (h : Prototyped (owner ++ '.' :: name) o n)
    (hname : IsName name) : owner = o ++ ".prototype".toList ∧ name = n := by
  have heq : owner ++ '.' :: name = (o ++ ".prototype".toList) ++ '.' :: n := by
    rw [h.eq, List.append_assoc]
    rfl
  exact Text.append_cons_inj hname.dot_not_mem h.name heq

theorem Prototyped.isName {o n : Text} (h : Prototyped (owner ++ '.' :: name) o n)
    (howner : IsOwner owner) (hname : IsName name) : IsName o where
  ne_nil := h.ne_nil
  identifier c hc := by
    have hp : isPath c = true := by
      apply howner.path
      rw [(h.parts hname).1]
      exact List.mem_append_left _ hc
    exact isIdentifier_of_isPath hp fun hd => h.owner (hd ▸ hc)

/-- Around `prototype` the line is read as the path says. -/
theorem Prototyped.prototyped? {o n : Text} (h : Prototyped (owner ++ '.' :: name) o n)
    (howner : IsOwner owner) (hname : IsName name) (hb : IsGap b) :
    Declaration.prototyped? (owner ++ '.' :: (name ++ (b ++ '=' :: r))) =
      some (o, name, b ++ '=' :: r) := by
  have hstops := stops_identifier_of_stops_path (hb.stops_path (r := r) isPath_equals)
  refine prototyped?_eq_some_iff.mpr ⟨h.isName howner hname, hname, hstops, ?_⟩
  rw [(h.parts hname).1, List.append_assoc]
  rfl

/-- An assignment that is read around `prototype` has the word in its path. -/
theorem prototyped_of_prototyped? {o x t u : Text} (howner : IsOwner owner) (hname : IsName name)
    (hb : IsGap b)
    (h : prototyped? (owner ++ '.' :: (name ++ (b ++ '=' :: r))) = some (o, x, t))
    (ht : behindSign? '=' t = some u) : Prototyped (owner ++ '.' :: name) o x := by
  obtain ⟨ho, hx, -, hs⟩ := prototyped?_eq_some_iff.mp h
  obtain ⟨b', hb', rfl⟩ := (behindSign?_eq_some_iff (by decide)).mp ht
  refine ⟨?_, ho.ne_nil, ho.dot_not_mem, hx.dot_not_mem⟩
  -- both are the longest path at the front of the line
  have howner' : IsOwner (o ++ ".prototype".toList) := ho.isOwner.prototype
  have hl : owner ++ '.' :: (name ++ (b ++ '=' :: r)) =
      (owner ++ '.' :: name) ++ (b ++ '=' :: r) := by simp
  have hl' : o ++ (".prototype.".toList ++ (x ++ (b' ++ '=' :: u))) =
      ((o ++ ".prototype".toList) ++ '.' :: x) ++ (b' ++ '=' :: u) := by simp
  calc owner ++ '.' :: name
      = (owner ++ '.' :: (name ++ (b ++ '=' :: r))).takeWhile isPath := by
        rw [hl]
        exact (Text.takeWhile_append_of_stops (isPath_of_mem_path howner hname)
          (hb.stops_path isPath_equals)).symm
    _ = (o ++ ".prototype".toList) ++ '.' :: x := by
        rw [hs, hl']
        exact Text.takeWhile_append_of_stops (isPath_of_mem_path howner' hx)
          (hb'.stops_path isPath_equals)
    _ = o ++ (".prototype.".toList ++ x) := by simp

/-- What an assignment to a path declares: a method when the right-hand side begins like a function,
and otherwise a property when there is a value. -/
theorem exists_ofCode?_path {code : Text} (howner : IsOwner owner) (hname : IsName name)
    (hb : IsGap b)
    (hl : Text.firstLine (Text.trim code) = owner ++ '.' :: (name ++ (b ++ '=' :: r))) :
    ∃ scope, BelongsBy owner name scope ∧
      ∀ (offset : Int) (blocks : List OwnerBlock),
        ofCode? code offset blocks =
          if beginsFunction r then
            some { kind := .method, name := name, string := called (owner ++ '.' :: name),
                   scope := some scope }
          else (value? r).map fun v =>
            { kind := .property, name := name, string := owner ++ '.' :: name,
              scope := some scope, value := some v } := by
  have hfam : familyOf (Text.firstLine (Text.trim code)) = .assignment := by
    rw [hl]
    exact familyOf_path howner.path _
  have hdotted : dotted? (owner ++ '.' :: (name ++ (b ++ '=' :: r))) =
      some (owner, name, b ++ '=' :: r) :=
    dotted?_eq_some_iff.mpr ⟨howner, hname, hb.stops_path isPath_equals, rfl⟩
  obtain ⟨hmethod, hproperty⟩ := read?_of_dotted? hdotted hb
  have hshapes : Shape.order.filter (·.family = Family.assignment) =
      [.prototypeMethod, .prototypeProperty, .method, .property] := by decide
  by_cases hproto : ∃ o n, Prototyped (owner ++ '.' :: name) o n
  · obtain ⟨o, n, hproto⟩ := hproto
    obtain ⟨rfl, rfl⟩ := hproto.parts hname
    obtain ⟨hpm, hpp⟩ := read?_of_prototyped? (hproto.prototyped? (r := r) howner hname hb) hb
    refine ⟨⟨some o, .ofInstance⟩, ⟨?_, fun hnot => absurd hproto (hnot o name)⟩, ?_⟩
    · intro o' n' h'
      rw [List.append_cancel_right (h'.parts hname).1]
    · intro offset blocks
      rw [ofCode?_of_family hfam, hshapes, hl, onLine?_pair hpm hpp]
      · simp [ofReading, called, Option.map_map, Function.comp_def]
      · intro hf hv
        rw [onLine?_pair hmethod hproperty [] fun _ _ => rfl, hf, Option.map_eq_none_iff.mp hv]
        rfl
  · have hnone : (prototyped? (owner ++ '.' :: (name ++ (b ++ '=' :: r)))).bind
        (fun p => behindSign? '=' p.2.2) = none := by
      rw [Option.eq_none_iff_forall_ne_some]
      intro u hu
      obtain ⟨⟨o, x, t⟩, hp, ht⟩ := Option.bind_eq_some_iff.mp hu
      exact hproto ⟨o, x, prototyped_of_prototyped? howner hname hb hp ht⟩
    obtain ⟨hpm, hpp⟩ := read?_of_not_prototyped? hnone
    refine ⟨⟨some owner, .ofClass⟩, ⟨fun o n h => absurd ⟨o, n, h⟩ hproto, fun _ => rfl⟩, ?_⟩
    have hmember : memberText (some owner) name = owner ++ '.' :: name := by
      obtain ⟨c, t, rfl⟩ := List.exists_cons_of_ne_nil howner.ne_nil
      rfl
    intro offset blocks
    rw [ofCode?_of_family hfam, hshapes, hl, onLine?_cons_of_none hpm, onLine?_cons_of_none hpp,
      onLine?_pair hmethod hproperty [] fun _ _ => rfl]
    simp [ofReading, hmember, Option.map_map, Function.comp_def]

end

/-- What is declared by an assignment of the right-hand side `r` to the path `owner.x`. -/
structure Assigned (owner x r : Text) (d : Declaration) : Prop where
  name : d.name = x
  scope : ∃ scope, d.scope = some scope ∧ BelongsBy owner x scope
  method : OpensFunction r → d.kind = .method ∧ d.string = (owner ++ '.' :: x) ++ "()".toList
  property : ¬ OpensFunction r →
    d.kind = .property ∧ d.string = owner ++ '.' :: x ∧ d.value = some (valueOf r)

/-- An assignment to a path with something in front of its last dot and behind it declares a member
exactly when the right-hand side begins like a function or has a value, and nothing of the path is
lost in it.  The place of the code and the blocks around it do not matter. -/
theorem ofCode?_assignment {code path owner name b r : Text} (hpath : ∀ c ∈ path, isPath c = true)
    (hsplit : path = owner ++ '.' :: name) (howner : owner ≠ []) (hname : name ≠ [])
    (hdot : '.' ∉ name) (hb : IsGap b)
    (hl : Text.firstLine (Text.trim code) = path ++ (b ++ '=' :: r)) (offset : Int)
    (blocks : List OwnerBlock) :
    ((∃ d, ofCode? code offset blocks = some d) ↔ OpensFunction r ∨ HasValue r) ∧
    (∀ d, ofCode? code offset blocks = some d → Assigned owner name r d) ∧
    (∀ offset' blocks', ofCode? code offset' blocks' = ofCode? code offset blocks) := by
  subst hsplit
  have howner : IsOwner owner := ⟨howner, fun c hc => hpath c (List.mem_append_left _ hc)⟩
  have hname : IsName name := by
    refine ⟨hname, fun c hc => isIdentifier_of_isPath (hpath c ?_) fun hd => hdot (hd ▸ hc)⟩
    exact List.mem_append_right _ (List.mem_cons_of_mem _ hc)
  rw [List.append_assoc, List.cons_append] at hl
  obtain ⟨scope, hscope, hdeclares⟩ := exists_ofCode?_path howner hname hb hl
  refine ⟨?_, ?_, fun offset' blocks' => (hdeclares offset' blocks').trans
    (hdeclares offset blocks).symm⟩
  · rw [hdeclares, ← beginsFunction_iff]
    by_cases hv : HasValue r
    · simp only [hv, or_true, iff_true, value?_of_hasValue hv]
      split
      · exact ⟨_, rfl⟩
      · exact ⟨_, rfl⟩
    · simp only [hv, or_false, value?_of_not_hasValue hv]
      cases beginsFunction r <;> simp
  · intro d hd
    rw [hdeclares] at hd
    split at hd
    · next hf =>
      rw [beginsFunction_iff] at hf
      obtain rfl := Option.some.inj hd
      exact ⟨rfl, ⟨scope, rfl, hscope⟩, fun _ => ⟨rfl, rfl⟩, fun hn => absurd hf hn⟩
    · next hf =>
      rw [beginsFunction_iff] at hf
      obtain ⟨v, hv, rfl⟩ := Option.map_eq_some_iff.mp hd
      obtain rfl := eq_valueOf_of_value? hv
      exact ⟨rfl, ⟨scope, rfl, hscope⟩, fun h => absurd h hf, fun _ => ⟨rfl, rfl, rfl⟩⟩

/-- A method of instances, in a block of another owner. -/
theorem ofCode?_assignment_prototype :
    ∃ d, ofCode? "Widget.prototype.render = function() \x7b".toList 7
        [⟨"Other".toList, 0, 99⟩] = some d ∧
      Assigned "Widget.prototype".toList "render".toList " function() \x7b".toList d ∧
      d.scope = some ⟨some "Widget".toList, .ofInstance⟩ := by
  have hpath : ∀ c ∈ "Widget.prototype.render".toList, isPath c = true :=
    List.all_eq_true.mp (by decide +kernel)
  have hl : Text.firstLine (Text.trim "Widget.prototype.render = function() \x7b".toList) =
      "Widget.prototype.render".toList ++ ([' '] ++ '=' :: " function() \x7b".toList) := by
    decide +kernel
  have hsplit : "Widget.prototype.render".toList =
      "Widget.prototype".toList ++ '.' :: "render".toList := by
    decide
  obtain ⟨hdeclares, hassigned, -⟩ := ofCode?_assignment hpath hsplit (by decide) (by decide)
    (by decide) isGap_space hl 7 [⟨"Other".toList, 0, 99⟩]
  obtain ⟨d, hd⟩ := hdeclares.mpr (.inl ⟨[' '], "() \x7b".toList, isGap_space, by decide⟩)
  obtain ⟨scope, hscope, hbelongs⟩ := (hassigned d hd).scope
  refine ⟨d, hd, hassigned d hd, ?_⟩
  rw [hscope, hbelongs.ofInstance "Widget".toList "render".toList
    ⟨by decide, by decide, by decide, by decide⟩]

/-- With nothing in front of the word `prototype` there is no owner to have instances, and the word
is an owner like any other. -/
theorem not_ofInstance_of_nil :
    ¬ ∀ (code path owner name b r o n : Text) (offset : Int) (blocks : List OwnerBlock)
        (d : Declaration),
      (∀ c ∈ path, isPath c = true) → path = owner ++ '.' :: name → owner ≠ [] → name ≠ [] →
      '.' ∉ name → IsGap b → Text.firstLine (Text.trim code) = path ++ (b ++ '=' :: r) →
      path = o ++ (".prototype.".toList ++ n) → '.' ∉ o → '.' ∉ n →
      ofCode? code offset blocks = some d → d.scope = some ⟨some o, .ofInstance⟩ := by
  intro h
  have hd : ofCode? ".prototype.n = 1".toList 0 [] =
      some { kind := .property, name := ['n'], string := ".prototype.n".toList,
             scope := some ⟨some ".prototype".toList, .ofClass⟩, value := some ['1'] } := by
    decide +kernel
  have hpath : ∀ c ∈ ".prototype.n".toList, isPath c = true :=
    List.all_eq_true.mp (by decide +kernel)
  have hscope := h ".prototype.n = 1".toList ".prototype.n".toList ".prototype".toList ['n'] [' ']
    " 1".toList [] ['n'] 0 [] _ hpath (by decide) (by decide) (by decide) (by decide)
    isGap_space (by decide +kernel) (by decide) (by decide) (by decide) hd
  exact absurd hscope (by decide)

/-! ## Assignments to a bare name -/

section

variable {x b r : Text}

theorem stops_gap_equals (hb : IsGap b) : Stops isIdentifier (b ++ '=' :: r) :=
  stops_identifier_of_stops_path (hb.stops_path isPath_equals)

/-- A keyword and a space in front of such a line are the whole name and a part of the gap. -/
theorem eq_keyword_of_bare {w t : Text} (hx : IsName x) (hb : IsGap b)
    (hw : ∀ c ∈ w, isIdentifier c = true) (h : x ++ (b ++ '=' :: r) = w ++ ' ' :: t) :
    ∃ b', IsGap b' ∧ t = b' ++ '=' :: r := by
  have hspace : Stops isIdentifier (' ' :: t) :=
    Text.stops_cons.mpr (isIdentifier_of_not_isPath (isPath_of_isIndent (by decide)))
  have hrest : b ++ '=' :: r = ' ' :: t := by
    rw [← Text.dropWhile_append_of_stops hx.identifier (stops_gap_equals (r := r) hb), h]
    exact Text.dropWhile_append_of_stops hw hspace
  cases b with
  | nil => exact absurd (List.cons.inj hrest).1 (by decide)
  | cons c b =>
    exact ⟨b, fun d hd => hb d (List.mem_cons_of_mem c hd), (List.cons.inj hrest).2.symm⟩

/-- No name stands behind the spaces of a gap in front of an equals sign. -/
theorem identifier?_dropWhile_gap (hb : IsGap b) :
    identifier? ((b ++ '=' :: r).dropWhile (· == ' ')) = none := by
  rw [Text.dropWhile_append_cons (by decide)]
  refine identifier?_eq_none_of_stops (stops_gap_equals fun c hc => hb c ?_)
  exact (List.dropWhile_suffix _).subset hc

/-- A bare name that begins with `var` is read as the keyword with the rest of the name behind
it. -/
theorem read?_functionExpression_bare {y : Text} (hy : IsName y) (hb : IsGap b) :
    Shape.functionExpression.read? ("var".toList ++ (y ++ (b ++ '=' :: r))) =
      if beginsFunction r then some ⟨[], y, []⟩ else none := by
  have hdrop : (y ++ (b ++ '=' :: r)).dropWhile (· == ' ') = y ++ (b ++ '=' :: r) :=
    hy.dropWhile_spaces [] (fun _ hc => absurd hc List.not_mem_nil) _
  have hname : identifier? (y ++ (b ++ '=' :: r)) = some (y, b ++ '=' :: r) :=
    identifier?_eq_some_iff.mpr ⟨hy, stops_gap_equals hb, rfl⟩
  have hr := behindSign?_gap '=' (by decide) hb r
  simp only [Shape.read?, Option.bind_eq_bind, Text.after?_append, Option.bind_some, hdrop, hname,
    hr]

theorem read?_bare_eq_none {shape : Shape} (hx : IsName x) (hb : IsGap b)
    (h : shape = .functionExpression → ∀ y, y ≠ [] → x ≠ "var".toList ++ y) :
    shape.read? (x ++ (b ++ '=' :: r)) = none := by
  have hfam : familyOf (x ++ (b ++ '=' :: r)) = .statement ∨
      familyOf (x ++ (b ++ '=' :: r)) = .introduction := by
    rw [familyOf_name hx.identifier hb isPath_equals (by decide), if_neg (by decide)]
    split
    · exact .inl rfl
    · exact .inr rfl
  have hother : shape.family ≠ .statement → shape.family ≠ .introduction →
      shape.read? (x ++ (b ++ '=' :: r)) = none := by
    intro hs hi
    apply read?_eq_none_of_family
    rcases hfam with hf | hf
    · rwa [hf]
    · rwa [hf]
  cases shape with
  | functionStatement =>
    rw [Option.eq_none_iff_forall_ne_some]
    intro rd hrd
    simp only [Shape.read?, Option.bind_eq_bind, Option.bind_eq_some_iff] at hrd
    obtain ⟨t, ht, ⟨n, t'⟩, hn, -⟩ := hrd
    have hs : x ++ (b ++ '=' :: r) = "function ".toList ++ t := Text.after?_eq_some_iff.mp ht
    obtain ⟨b', hb', rfl⟩ := eq_keyword_of_bare hx hb isIdentifier_function hs
    rw [identifier?_eq_none_of_stops (stops_gap_equals hb')] at hn
    cases hn
  | functionExpression =>
    rw [Option.eq_none_iff_forall_ne_some]
    intro rd hrd
    simp only [Shape.read?, Option.bind_eq_bind, Option.bind_eq_some_iff] at hrd
    obtain ⟨t, ht, ⟨n, t'⟩, hn, -⟩ := hrd
    have hs : x ++ (b ++ '=' :: r) = "var".toList ++ t := Text.after?_eq_some_iff.mp ht
    obtain ⟨y, rfl⟩ : "var".toList <+: x :=
      Text.prefix_of_prefix_append isIdentifier_var (stops_gap_equals hb) ⟨t, hs.symm⟩
    -- nothing is left of the name, so no name stands behind the keyword
    have hy : y = [] := by_contra fun hy => h rfl y hy rfl
    subst hy
    rw [List.append_nil] at hs
    rw [← List.append_cancel_left hs, identifier?_dropWhile_gap hb] at hn
    cases hn
  | bareVariable =>
    rw [Option.eq_none_iff_forall_ne_some]
    intro rd hrd
    simp only [Shape.read?, Option.bind_eq_bind, Option.bind_eq_some_iff] at hrd
    obtain ⟨t, ht, ⟨n, t'⟩, hn, -⟩ := hrd
    have hs : x ++ (b ++ '=' :: r) = ['v', 'a', 'r', ' '] ++ t := Text.after?_eq_some_iff.mp ht
    obtain ⟨b', hb', rfl⟩ := eq_keyword_of_bare hx hb isIdentifier_var hs
    rw [identifier?_dropWhile_gap hb'] at hn
    cases hn
  | prototypeMethod | prototypeProperty | method | shorthandMethod | property
  | shorthandProperty => exact hother (by decide) (by decide)

/-- What a line with an assignment to a bare name declares. -/
theorem onLine?_bare (hx : IsName x) (hb : IsGap b) (offset : Int) (blocks : List OwnerBlock) :
    onLine? Shape.order (x ++ (b ++ '=' :: r)) offset blocks =
      (Shape.functionExpression.read? (x ++ (b ++ '=' :: r))).map fun rd =>
        ofReading rd none .functionExpression := by
  have hone : Shape.order.filter (· = .functionExpression) = [.functionExpression] := by decide
  rw [onLine?, ← findSome?_filter (p := (· = Shape.functionExpression)), hone]
  · simp only [List.findSome?_cons, List.findSome?_nil, Shape.isScoped, Bool.false_eq_true,
      if_false]
    cases Shape.functionExpression.read? (x ++ (b ++ '=' :: r)) <;> rfl
  · intro shape _ hne
    have hne : shape ≠ .functionExpression := of_decide_eq_false hne
    rw [read?_bare_eq_none hx hb fun he => absurd he hne]
    rfl

/-- The first line of code that begins with a path, a gap and a sign. -/
theorem firstLine_trim_gap {sign : Char} (hx : IsOwner x) (hb : IsGap b)
    (hs : isBlank sign = false) :
    Text.firstLine (Text.trim (x ++ (b ++ sign :: r))) =
      x ++ (b ++ sign :: Text.firstLine (Text.trimEnd r)) := by
  have hblank : ∀ c ∈ x, isBlank c = false := fun c hc =>
    OwnerBlock.isBlank_of_isPath (hx.path c hc)
  have hfront : ∀ c ∈ (x ++ b).head?, isBlank c = false := by
    obtain ⟨c, t, rfl⟩ := List.exists_cons_of_ne_nil hx.ne_nil
    intro d hd
    obtain rfl : c = d := by simpa using hd
    exact hblank c List.mem_cons_self
  have hline : '\n' ∉ x ++ b := by
    intro hn
    rcases List.mem_append.mp hn with hn | hn
    · exact absurd (hblank _ hn) (by decide)
    · exact absurd (hb _ hn) (by decide)
  rw [← List.append_assoc, Text.firstLine_trim_append_cons hfront hline hs, List.append_assoc]

/-- The first line of code that begins with an assignment to a bare name. -/
theorem firstLine_trim_bare (hx : IsName x) (hb : IsGap b) :
    Text.firstLine (Text.trim (x ++ (b ++ '=' :: r))) =
      x ++ (b ++ '=' :: Text.firstLine (Text.trimEnd r)) :=
  firstLine_trim_gap hx.isOwner hb (by decide)

end

theorem opensFunction_iff_begins {r : Text} :
    OpensFunction r ↔ ∃ b, IsGap b ∧ b ++ "function".toList <+: r := by
  constructor
  · rintro ⟨b, t, hb, rfl⟩
    exact ⟨b, hb, t, List.append_assoc _ _ _⟩
  · rintro ⟨b, hb, t, rfl⟩
    exact ⟨b, t, hb, List.append_assoc _ _ _⟩

/-- Blanks at the end and later lines do not change how a right-hand side begins. -/
theorem opensFunction_firstLine_trimEnd {r : Text} :
    OpensFunction (Text.firstLine (Text.trimEnd r)) ↔ OpensFunction r := by
  rw [opensFunction_iff_begins, opensFunction_iff_begins]
  refine exists_congr fun b => and_congr_right fun hb => ⟨fun h => ?_, fun h => ?_⟩
  · exact (h.trans (List.takeWhile_prefix _)).trans (Text.trimEnd_prefix r)
  · have hword : b ++ "function".toList = (b ++ "functio".toList) ++ ['n'] := by simp
    apply Text.prefix_firstLine
    · rw [hword] at h ⊢
      exact Text.prefix_trimEnd h (by decide)
    · intro hn
      rcases List.mem_append.mp hn with hn | hn
      · exact absurd (hb _ hn) (by decide)
      · exact absurd hn (by decide)

/-- An assignment to a bare name declares nothing, unless the name begins with `var`, has more
letters, and the right-hand side begins like a function: then a function is declared under the
letters behind `var`. -/
theorem ofCode?_bareAssignment {x b : Text} (hx : IsName x) (hb : IsGap b) (r : Text)
    (offset : Int) (blocks : List OwnerBlock) :
    (ofCode? (x ++ (b ++ '=' :: r)) offset blocks = none ↔
      ¬ ∃ y, y ≠ [] ∧ x = "var".toList ++ y ∧ OpensFunction r) ∧
    ∀ y, y ≠ [] → x = "var".toList ++ y → OpensFunction r →
      ofCode? (x ++ (b ++ '=' :: r)) offset blocks =
        some { kind := .function, name := y, string := y ++ "()".toList } := by
  have hdeclares : ∀ y, y ≠ [] → x = "var".toList ++ y →
      ofCode? (x ++ (b ++ '=' :: r)) offset blocks =
        if beginsFunction (Text.firstLine (Text.trimEnd r)) then
          some { kind := .function, name := y, string := y ++ "()".toList }
        else none := by
    rintro y hy rfl
    have hname : IsName y := ⟨hy, fun c hc => hx.identifier c (List.mem_append_right _ hc)⟩
    rw [ofCode?, firstLine_trim_bare hx hb, onLine?_bare hx hb, List.append_assoc,
      read?_functionExpression_bare hname hb]
    split <;> rfl
  refine ⟨⟨?_, ?_⟩, ?_⟩
  · rintro hnone ⟨y, hy, hxy, hr⟩
    rw [hdeclares y hy hxy,
      if_pos (beginsFunction_iff.mpr (opensFunction_firstLine_trimEnd.mpr hr))] at hnone
    cases hnone
  · intro hnot
    by_cases hvar : ∃ y, y ≠ [] ∧ x = "var".toList ++ y
    · obtain ⟨y, hy, hxy⟩ := hvar
      rw [hdeclares y hy hxy, if_neg]
      intro hr
      exact hnot ⟨y, hy, hxy, opensFunction_firstLine_trimEnd.mp (beginsFunction_iff.mp hr)⟩
    · rw [ofCode?, firstLine_trim_bare hx hb, onLine?_bare hx hb,
        read?_bare_eq_none hx hb fun _ y hy hxy => hvar ⟨y, hy, hxy⟩]
      rfl
  · intro y hy hxy hr
    rw [hdeclares y hy hxy,
      if_pos (beginsFunction_iff.mpr (opensFunction_firstLine_trimEnd.mpr hr))]

/-- A function assigned to a name that has nothing of the keyword. -/
theorem ofCode?_bareAssignment_function :
    IsName "foo".toList ∧ IsGap [' '] ∧
      ∀ (offset : Int) (blocks : List OwnerBlock),
        ofCode? "foo = function() \x7b".toList offset blocks = none := by
  have hx : IsName "foo".toList := ⟨by decide, List.all_eq_true.mp (by decide +kernel)⟩
  refine ⟨hx, isGap_space, fun offset blocks => ?_⟩
  apply (ofCode?_bareAssignment hx isGap_space " function() \x7b".toList offset blocks).1.mpr
  rintro ⟨y, -, hy, -⟩
  exact absurd (List.cons.inj hy).1 (by decide)

/-- A variable whose name begins with the keyword: a function of another name is declared. -/
theorem not_ofCode?_bareAssignment :
    ¬ ∀ x b r : Text, IsName x → IsGap b → ∀ (offset : Int) (blocks : List OwnerBlock),
      ofCode? (x ++ (b ++ '=' :: r)) offset blocks = none := by
  intro h
  have hx : IsName "variable".toList := ⟨by decide, List.all_eq_true.mp (by decide +kernel)⟩
  exact absurd (h _ _ " function() \x7b".toList hx isGap_space 0 []) (by decide +kernel)

end Declaration

end Docblock
