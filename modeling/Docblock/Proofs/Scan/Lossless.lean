/-
# Docblock.Proofs.Scan.Lossless — nothing of a scan is lost when it is handed out.

A structured value leaves out what is unset, says nothing of a declaration without code, and has
only a name for a kind of declaration or membership.  On comments that a scan makes all of it can be
told from the value again: a tag writes the fields that are set, a declaration is there only with
the code it was read from, and its kinds are the ones with names of their own
(`comments_eq_of_alike`).
-/
import Docblock.Proofs.Declaration.Shape
import Docblock.Proofs.Json.Alike
import Docblock.Proofs.Scan.Member
import Docblock.Proofs.Tag.Fields

namespace Docblock

open Json (Alike)

/-! ## Tags and descriptions -/

theorem Tag.eq_of_alike {t u : Tag} (h : Alike t.toJson u.toJson) : t = u := by
  have text {o o' : Option Text} (h : Option.Rel Alike (o.map .string) (o'.map .string)) :
      o = o' := Json.eq_of_alike_map (fun _ _ _ _ => Alike.string_inj) h
  unfold toJson at h
  have hfields := h.forall₂_fields rfl (by simp only [List.map_cons, List.map_nil]; decide)
  simp only [List.forall₂_cons, Option.rel_some_some] at hfields
  obtain ⟨htype, htypes, hname, hdescription, htitle, hurl, htarget, hvisibility, hparent, hclass,
    hother, hthis, hstring, -⟩ := hfields
  cases t
  cases u
  congr
  · exact htype.string_inj
  · -- the types are a list of texts, which may be unset as well
    exact Json.eq_of_alike_map (fun _ _ _ _ h =>
      Json.eq_of_forall₂_alike (fun _ _ _ _ => Alike.string_inj) h.forall₂_items) htypes
  all_goals exact text ‹_›

theorem Description.eq_of_alike {d e : Description} (h : Alike d.toJson e.toJson) : d = e := by
  unfold toJson at h
  have hfields := h.forall₂_fields rfl (by simp only [List.map_cons, List.map_nil]; decide)
  simp only [List.forall₂_cons, Option.rel_some_some] at hfields
  obtain ⟨hfull, hsummary, hbody, -⟩ := hfields
  cases d
  cases e
  congr
  all_goals exact Alike.string_inj ‹_›

/-! ## Declarations -/

/-- A membership that its name stands for. -/
def Membership.Named (m : Membership) : Prop := ofName m.name = m

theorem Membership.eq_of_name {m n : Membership} (hm : m.Named) (hn : n.Named)
    (h : m.name = n.name) : m = n := by
  rw [← hm, ← hn, h]

theorem Scope.eq_of_alike {s t : Scope} (hs : s.membership.Named) (ht : t.membership.Named)
    (h : Alike s.toJson t.toJson) : s = t := by
  unfold toJson at h
  have hfields := h.forall₂_fields rfl (by simp only [List.map_cons, List.map_nil]; decide)
  simp only [List.forall₂_cons, Option.rel_some_some] at hfields
  obtain ⟨howner, htype, -⟩ := hfields
  have htype := Membership.eq_of_name hs ht htype.string_inj
  cases s
  cases t
  congr
  exact howner.ofText?_inj

namespace Declaration

/-- A declaration whose kinds are the ones that their names stand for. -/
structure Named (d : Declaration) : Prop where
  kind : DeclarationKind.ofName d.kind.name = d.kind
  membership : ∀ s ∈ d.scope, s.membership.Named

theorem named_ofReading (shape : Shape) (r : Reading) (enclosing : Option Text) :
    (ofReading r enclosing shape).Named := by
  constructor
  · cases shape <;> rfl
  · cases shape <;> rintro s ⟨⟩ <;> rfl

/-- The kinds of what is read from code have names of their own. -/
theorem named_of_ofCode? {code : Text} {offset : Int} {blocks : List OwnerBlock} {d : Declaration}
    (h : ofCode? code offset blocks = some d) : d.Named := by
  rw [ofCode?_eq_bind_shape?] at h
  obtain ⟨shape, -, h⟩ := Option.bind_eq_some_iff.mp h
  obtain ⟨r, -, rfl⟩ := Option.map_eq_some_iff.mp h
  exact named_ofReading shape r _

theorem eq_of_alike {d e : Declaration} (hd : d.Named) (he : e.Named)
    (h : Alike d.toJson e.toJson) : d = e := by
  unfold toJson at h
  have hfields := h.forall₂_fields rfl (by simp only [List.map_cons, List.map_nil]; decide)
  simp only [List.forall₂_cons, Option.rel_some_some] at hfields
  obtain ⟨htype, hname, hstring, hscope, hvalue, -⟩ := hfields
  have hkind : d.kind = e.kind := by
    rw [← hd.kind, ← he.kind, htype.string_inj]
  have hscope : d.scope = e.scope := Json.eq_of_alike_map
    (fun s hs t ht => Scope.eq_of_alike (hd.membership s hs) (he.membership t ht)) hscope
  cases d
  cases e
  congr
  · exact hname.string_inj
  · exact hstring.string_inj
  · exact Json.eq_of_alike_map (fun _ _ _ _ => Alike.string_inj) hvalue

/-- What is declared, with its value, or nothing with the null value. -/
theorem eq_of_alike_getD {o o' : Option Declaration} (ho : ∀ d ∈ o, d.Named)
    (ho' : ∀ d ∈ o', d.Named)
    (h : Alike ((o.map toJson).getD .null) ((o'.map toJson).getD .null)) : o = o' := by
  cases o with
  | none =>
    cases o' with
    | none => rfl
    | some e => cases h
  | some d =>
    cases o' with
    | none => cases h
    | some e => rw [eq_of_alike (ho d rfl) (ho' e rfl) h]

end Declaration

/-! ## Comments -/

namespace Comment

variable {s s' : Text} {k k' : Comment}

theorem OfScan.named (h : k.OfScan s) : ∀ d ∈ k.declaration, d.Named := by
  intro d hd
  obtain ⟨code, place, -, hread⟩ := h.declaration d hd
  exact Declaration.named_of_ofCode? hread

/-- Nothing is declared without code. -/
theorem OfScan.declaration_eq_none (h : k.OfScan s) (hcode : k.code = none) :
    k.declaration = none := by
  rw [Option.eq_none_iff_forall_ne_some]
  intro d hd
  obtain ⟨code, place, hsome, -⟩ := h.declaration d hd
  rw [hcode] at hsome
  cases hsome

theorem eq_of_alike (hk : k.OfScan s) (hk' : k'.OfScan s') (h : Alike k.toJson k'.toJson) :
    k = k' := by
  unfold toJson at h
  have hfields := h.forall₂_fields rfl (by simp only [List.map_cons, List.map_nil]; decide)
  simp only [List.forall₂_cons, Option.rel_some_some] at hfields
  obtain ⟨htags, hdescription, hprivate, hignore, hcode, hctx, -⟩ := hfields
  have hcode : k.code = k'.code := Json.eq_of_alike_map (fun _ _ _ _ => Alike.string_inj) hcode
  -- without code the field says nothing of a declaration, and then there is none
  have hdeclaration : k.declaration = k'.declaration := by
    cases hc : k.code with
    | none => rw [hk.declaration_eq_none hc, hk'.declaration_eq_none (hcode ▸ hc)]
    | some code =>
      rw [← hcode, hc] at hctx
      exact Declaration.eq_of_alike_getD hk.named hk'.named (Option.rel_some_some.mp hctx)
  cases k
  cases k'
  congr
  · exact Json.eq_of_forall₂_alike (fun _ _ _ _ => Tag.eq_of_alike)
      htags.forall₂_items
  · exact Description.eq_of_alike hdescription
  · exact hprivate.bool_inj
  · exact hignore.bool_inj

end Comment

namespace Scan

/-- **Nothing is lost.**  Comments of two scans, of any sources and in any style, are the same when
their structured values hold the same: whatever is declared stands with its code, and the fields
that a tag sets are those of its kind. -/
theorem comments_eq_of_alike (st st' : Style) (source source' : Text) :
    (List.Forall₂ Alike ((ofSource st source).comments.map Comment.toJson)
        ((ofSource st' source').comments.map Comment.toJson) →
      (ofSource st source).comments = (ofSource st' source').comments) ∧
    (∀ k ∈ (ofSource st source).comments, k.declaration ≠ none → k.code ≠ none) ∧
    (∀ k ∈ (ofSource st source).comments, ∀ t ∈ k.tags, ∃ s, t = Tag.ofText s) ∧
    ∀ s, (Tag.ofText s).setFields ∈ (Tag.Kind.ofKeyword (Tag.ofText s).type).fieldSets := by
  refine ⟨fun h => ?_, fun k hk hd hc => ?_, fun k hk => ?_, Tag.setFields_ofText⟩
  · exact Json.eq_of_forall₂_alike
      (fun k hk k' hk' => Comment.eq_of_alike (ofScan_of_mem hk) (ofScan_of_mem hk')) h
  · exact hd ((ofScan_of_mem hk).declaration_eq_none hc)
  · exact (ofScan_of_mem hk).tag

/-- Two sources that differ in a line end, with a tag and a variable. -/
theorem comments_eq_of_alike_lineEnds :
    ∃ source source' : Text, source ≠ source' ∧
      List.Forall₂ Alike ((ofSource Style.untouched source).comments.map Comment.toJson)
        ((ofSource Style.untouched source').comments.map Comment.toJson) ∧
      (ofSource Style.untouched source).comments = (ofSource Style.untouched source').comments ∧
      (ofSource Style.untouched source).comments.map (fun k =>
        (k.tags.map Tag.setFields, k.declaration.isSome)) = [([["types"]], true)] := by
  have heq : (ofSource Style.untouched "/** @type y */\nvar a;".toList).comments =
      (ofSource Style.untouched "/** @type y */\r\nvar a;".toList).comments := by
    decide +kernel
  have halike : List.Forall₂ Alike
      ((ofSource Style.untouched "/** @type y */\nvar a;".toList).comments.map Comment.toJson)
      ((ofSource Style.untouched "/** @type y */\r\nvar a;".toList).comments.map
        Comment.toJson) := by
    rw [heq]
    exact List.forall₂_same.mpr fun v _ => .refl v
  exact ⟨_, _, by decide, halike, (comments_eq_of_alike _ _ _ _).1 halike, by decide +kernel⟩

end Scan

end Docblock
