/-
# Docblock.Proofs.Declaration.Prototype — a member of a prototype, written in two ways.

The instances of an owner get a member by an assignment to its path, with the word `prototype`
between owner and name, or in shorthand inside a block that is assigned to the prototype.  The line
in shorthand takes its owner from the block, and a block may belong to any path.  The path is read
around `prototype` only when a plain name stands in front of the word; behind a dotted one the word
is the last part of the owner.  Main statement: both lines declare a member of the same sort and
name, of the same instances when the owner is a plain name, and without a value neither declares
anything (`ofCode?_prototypeMember`).
-/
import Docblock.Proofs.Declaration.FirstLine

namespace Docblock

namespace Declaration

/-! ## Two ways to write a member -/

/-- A member of a prototype, assigned to its path. -/
def writtenOut (owner x rhs : Text) : Text :=
  owner ++ (".prototype.".toList ++ (x ++ (" = ".toList ++ rhs)))

/-- A member in shorthand. -/
def inShorthand (x rhs : Text) : Text := x ++ (": ".toList ++ rhs)

/-- The owner that is read off the path of a member of a prototype, and how the member belongs to
it. -/
def scopeOfPath (owner : Text) : Scope :=
  if '.' ∈ owner then ⟨some (owner ++ ".prototype".toList), .ofClass⟩
  else ⟨some owner, .ofInstance⟩

/-- What is declared is a member `x` of the sort `kind`, in the given scope. -/
structure IsMember (kind : DeclarationKind) (x : Text) (scope : Scope) (d : Declaration) :
    Prop where
  kind : d.kind = kind
  name : d.name = x
  scope : d.scope = some scope

/-- Two lines declare a member `x` of one sort, each in its scope. -/
def BothDeclare (x : Text) (out short : Option Declaration) (scope scope' : Scope) : Prop :=
  ∃ kind d d', out = some d ∧ short = some d' ∧ IsMember kind x scope d ∧ IsMember kind x scope' d'

section

variable {owner x rhs : Text}

theorem firstLine_trim_writtenOut (howner : IsOwner owner) (hx : IsName x) (rhs : Text) :
    Text.firstLine (Text.trim (writtenOut owner x rhs)) =
      (owner ++ ".prototype".toList) ++
        '.' :: (x ++ ([' '] ++ '=' :: Text.firstLine (Text.trimEnd (' ' :: rhs)))) := by
  have hpath : IsOwner ((owner ++ ".prototype".toList) ++ '.' :: x) :=
    ⟨by simp, isPath_of_mem_path howner.prototype hx⟩
  have hcode : writtenOut owner x rhs =
      ((owner ++ ".prototype".toList) ++ '.' :: x) ++ ([' '] ++ '=' :: ' ' :: rhs) := by
    simp [writtenOut]
  rw [hcode, firstLine_trim_gap hpath isGap_space (by decide), List.append_assoc]
  rfl

theorem firstLine_trim_inShorthand (hx : IsName x) (rhs : Text) :
    Text.firstLine (Text.trim (inShorthand x rhs)) =
      x ++ ([] ++ ':' :: Text.firstLine (Text.trimEnd (' ' :: rhs))) :=
  firstLine_trim_gap hx.isOwner (fun _ hc => absurd hc List.not_mem_nil) (by decide)

/-- The owner of a path around `prototype` is told by its dots. -/
theorem scope_eq_scopeOfPath (howner : IsOwner owner) (hx : IsName x) {scope : Scope}
    (h : BelongsBy (owner ++ ".prototype".toList) x scope) : scope = scopeOfPath owner := by
  unfold scopeOfPath
  split
  · next hdot =>
    apply h.ofClass
    intro o n hproto
    have howner : owner = o := List.append_cancel_right (hproto.parts hx).1
    exact hproto.owner (howner ▸ hdot)
  · next hdot =>
    apply h.ofInstance owner x
    exact ⟨by rw [List.append_assoc]; rfl, howner.ne_nil, hdot, hx.dot_not_mem⟩

/-- A right-hand side that is not blank has a value, be it an empty one, on its first line. -/
theorem hasValue_of_not_blank (h : Text.blank rhs = false) :
    HasValue (Text.firstLine (Text.trimEnd (' ' :: rhs))) := by
  obtain ⟨a, y, b, rfl, hy⟩ := Text.exists_append_cons_of_not_blank h
  rw [← List.cons_append, Text.trimEnd_append_cons hy]
  exact ⟨' ', _, rfl, by decide⟩

end

/-! ## Main statement -/

/-- A member that is written out for the owner of a block, and one in shorthand on a line for which
this block is the first around it: without a right-hand side neither is declared; with one both are,
under the same name and as the same sort of member.  Their scopes are the same when the owner is a
plain name. -/
theorem ofCode?_prototypeMember {s x : Text} {b : OwnerBlock} {offset : Int}
    (hfirst : (OwnerBlock.inSource s).find? (·.holds offset) = some b) (hx : IsName x) (rhs : Text)
    (place : Int) (blocks : List OwnerBlock) :
    (Text.blank rhs = true →
      ofCode? (writtenOut b.name x rhs) place blocks = none ∧
        ofCode? (inShorthand x rhs) offset (OwnerBlock.inSource s) = none) ∧
    (Text.blank rhs = false →
      BothDeclare x (ofCode? (writtenOut b.name x rhs) place blocks)
        (ofCode? (inShorthand x rhs) offset (OwnerBlock.inSource s))
        (scopeOfPath b.name) ⟨some b.name, .ofInstance⟩) := by
  obtain ⟨hne, hpath⟩ := OwnerBlock.path_of_mem_inSource (List.mem_of_find?_eq_some hfirst)
  have howner : IsOwner b.name := ⟨hne, hpath⟩
  have henclosing : OwnerBlock.ownerAt offset (OwnerBlock.inSource s) = some b.name := by
    rw [OwnerBlock.ownerAt, hfirst]
    rfl
  obtain ⟨scope, hscope, hout⟩ := exists_ofCode?_path howner.prototype hx isGap_space
    (firstLine_trim_writtenOut howner hx rhs)
  have hshort := ofCode?_member hx (fun _ hc => absurd hc List.not_mem_nil)
    (firstLine_trim_inShorthand hx rhs) offset (OwnerBlock.inSource s)
  rw [hout, hshort, henclosing, scope_eq_scopeOfPath howner hx hscope]
  constructor
  · intro hblank
    have hblank : Text.blank (' ' :: rhs) = true := by
      rw [Text.blank_iff] at hblank ⊢
      exact List.forall_mem_cons.mpr ⟨by decide, hblank⟩
    have hnothing : Text.firstLine (Text.trimEnd (' ' :: rhs)) = [] :=
      congrArg Text.firstLine (Text.trimEnd_append_of_blank hblank [])
    rw [hnothing, beginsFunction_of_blank Text.blank_nil]
    exact ⟨rfl, rfl⟩
  · intro hrhs
    rw [value?_of_hasValue (hasValue_of_not_blank hrhs)]
    cases beginsFunction (Text.firstLine (Text.trimEnd (' ' :: rhs))) with
    | true => exact ⟨.method, _, _, rfl, rfl, ⟨rfl, rfl, rfl⟩, ⟨rfl, rfl, rfl⟩⟩
    | false => exact ⟨.property, _, _, rfl, rfl, ⟨rfl, rfl, rfl⟩, ⟨rfl, rfl, rfl⟩⟩

/-- A property of the instances of a plain name. -/
theorem ofCode?_prototypeMember_plain :
    (OwnerBlock.inSource "Widget.prototype = \x7b\n  size: 10\n\x7d;\n".toList).find?
        (·.holds 23) = some ⟨"Widget".toList, 0, 34⟩ ∧
      IsName "size".toList ∧
      BothDeclare "size".toList (ofCode? "Widget.prototype.size = 10".toList 0 [])
        (ofCode? "size: 10".toList 23
          (OwnerBlock.inSource "Widget.prototype = \x7b\n  size: 10\n\x7d;\n".toList))
        ⟨some "Widget".toList, .ofInstance⟩ ⟨some "Widget".toList, .ofInstance⟩ := by
  have hfirst : (OwnerBlock.inSource "Widget.prototype = \x7b\n  size: 10\n\x7d;\n".toList).find?
      (·.holds 23) = some ⟨"Widget".toList, 0, 34⟩ := by decide +kernel
  have hx : IsName "size".toList := ⟨by decide, List.all_eq_true.mp (by decide +kernel)⟩
  exact ⟨hfirst, hx, (ofCode?_prototypeMember hfirst hx "10".toList 0 []).2 (by decide)⟩

/-- The lines need not agree: behind a dotted path the word `prototype` is a part of the owner, and
without a value nothing is declared. -/
theorem not_ofCode?_prototypeMember :
    (¬ ∀ (s x rhs : Text) (b : OwnerBlock) (offset place : Int) (blocks : List OwnerBlock),
      (OwnerBlock.inSource s).find? (·.holds offset) = some b → IsName x →
        Text.blank rhs = false →
        BothDeclare x (ofCode? (writtenOut b.name x rhs) place blocks)
          (ofCode? (inShorthand x rhs) offset (OwnerBlock.inSource s))
          ⟨some b.name, .ofInstance⟩ ⟨some b.name, .ofInstance⟩) ∧
    ¬ ∀ (s x rhs : Text) (b : OwnerBlock) (offset place : Int) (blocks : List OwnerBlock),
      (OwnerBlock.inSource s).find? (·.holds offset) = some b → IsName x → '.' ∉ b.name →
        BothDeclare x (ofCode? (writtenOut b.name x rhs) place blocks)
          (ofCode? (inShorthand x rhs) offset (OwnerBlock.inSource s))
          ⟨some b.name, .ofInstance⟩ ⟨some b.name, .ofInstance⟩ := by
  have hx : IsName ['m'] := ⟨by decide, List.all_eq_true.mp (by decide +kernel)⟩
  constructor
  · intro h
    have hfirst : (OwnerBlock.inSource "a.b.prototype = \x7b\n\x7d;\n".toList).find?
        (·.holds 17) = some ⟨"a.b".toList, 0, 20⟩ := by decide +kernel
    have hd : ofCode? (writtenOut "a.b".toList ['m'] ['1']) 0 [] =
        some { kind := .property, name := ['m'], string := "a.b.prototype.m".toList,
               scope := some ⟨some "a.b.prototype".toList, .ofClass⟩, value := some ['1'] } := by
      decide +kernel
    obtain ⟨kind, d, d', hout, -, hmember, -⟩ := h _ _ ['1'] _ _ 0 [] hfirst hx (by decide)
    rw [hd] at hout
    have hscope := hmember.scope
    rw [← Option.some.inj hout] at hscope
    exact absurd hscope (by decide)
  · intro h
    have hfirst : (OwnerBlock.inSource "A.prototype = \x7b\n\x7d;\n".toList).find?
        (·.holds 15) = some ⟨['A'], 0, 18⟩ := by decide +kernel
    have hd : ofCode? (writtenOut ['A'] ['m'] []) 0 [] = none := by decide +kernel
    obtain ⟨kind, d, d', hout, -⟩ := h _ _ [] _ _ 0 [] hfirst hx (by decide)
    rw [hd] at hout
    cases hout

end Declaration

end Docblock
