/-
# Docblock.Proofs.Json.Alike — values that hold the same.

The members of an object have names, and what is under a name does not depend on the place where it
is written.  So values are compared here without regard to the order of members.  An object made of
fields holds nothing for a field that is unset, which is not the same as an empty field: what was
set, and to what, can be told from any object that is alike (`Alike.forall₂_fields`).
-/
import Docblock.Record
import Mathlib.Data.List.Forall2

namespace Docblock.Json

/-- Two values hold the same: they are equal, or lists of values that hold the same, or objects with
the same under every name, whatever the order of their members. -/
inductive Alike : Json → Json → Prop
  | refl (v : Json) : Alike v v
  | array {vs ws : List Json} : List.Forall₂ Alike vs ws → Alike (.array vs) (.array ws)
  | object {ms ns : List (Text × Json)} :
      (∀ name, Option.Rel Alike (ms.lookup name) (ns.lookup name)) →
      Alike (.object ms) (.object ns)

/-! ## Values by their forms -/

theorem Alike.string_inj {s t : Text} (h : Alike (.string s) (.string t)) : s = t := by
  cases h
  rfl

theorem Alike.bool_inj {a b : Bool} (h : Alike (.bool a) (.bool b)) : a = b := by
  cases h
  rfl

theorem Alike.ofText?_inj {s t : Option Text} (h : Alike (ofText? s) (ofText? t)) : s = t := by
  cases s <;> cases t <;> cases h <;> rfl

theorem Alike.forall₂_items {vs ws : List Json} (h : Alike (.array vs) (.array ws)) :
    List.Forall₂ Alike vs ws := by
  cases h with
  | refl => exact List.forall₂_same.mpr fun v _ => .refl v
  | array h => exact h

theorem Alike.rel_lookup {ms ns : List (Text × Json)} (h : Alike (.object ms) (.object ns))
    (name : Text) : Option.Rel Alike (ms.lookup name) (ns.lookup name) := by
  cases h with
  | refl =>
    cases ms.lookup name with
    | none => exact .none
    | some v => exact .some (.refl v)
  | object h => exact h name

section

variable {α : Type} {f : α → Json}

/-- Lists are told from the values of their members when the members are. -/
theorem eq_of_forall₂_alike {as bs : List α} (hf : ∀ a ∈ as, ∀ b ∈ bs, Alike (f a) (f b) → a = b)
    (h : List.Forall₂ Alike (as.map f) (bs.map f)) : as = bs := by
  induction as generalizing bs with
  | nil =>
    cases bs with
    | nil => rfl
    | cons b bs => cases h
  | cons a as ih =>
    cases bs with
    | nil => cases h
    | cons b bs =>
      obtain ⟨hhead, htail⟩ := List.forall₂_cons.mp h
      rw [hf a List.mem_cons_self b List.mem_cons_self hhead,
        ih (fun a ha b hb => hf a (List.mem_cons_of_mem _ ha) b (List.mem_cons_of_mem _ hb)) htail]

/-- A field that may be unset is told from its value when what it is set to is. -/
theorem eq_of_alike_map {o o' : Option α}
    (hf : ∀ a ∈ o, ∀ b ∈ o', Alike (f a) (f b) → a = b)
    (h : Option.Rel Alike (o.map f) (o'.map f)) : o = o' := by
  cases o with
  | none =>
    cases o' with
    | none => rfl
    | some b => cases h
  | some a =>
    cases o' with
    | none => cases h
    | some b => rw [hf a rfl b rfl (Option.rel_some_some.mp h)]

end

/-! ## Fields -/

/-- The members that fields make. -/
def members (fields : List (String × Option Json)) : List (Text × Json) :=
  fields.filterMap fun (k, v) => v.map (k.toList, ·)

theorem lookup_members_of_not_mem {fields : List (String × Option Json)} {k : String}
    (h : k ∉ fields.map (·.1)) : (members fields).lookup k.toList = none := by
  rw [List.lookup_eq_none_iff]
  intro m hm
  obtain ⟨⟨k', o⟩, hf, hm⟩ := List.mem_filterMap.mp hm
  obtain ⟨v, -, rfl⟩ := Option.map_eq_some_iff.mp hm
  rw [bne_iff_ne]
  intro he
  exact h (List.mem_map.mpr ⟨_, hf, (String.toList_inj.mp he).symm⟩)

theorem lookup_members_cons (k : String) (o : Option Json) (fields : List (String × Option Json))
    (name : Text) :
    (members ((k, o) :: fields)).lookup name =
      if name = k.toList then o.or ((members fields).lookup name)
      else (members fields).lookup name := by
  cases o with
  | none =>
    rw [Option.none_or, ite_self]
    rfl
  | some v =>
    show ((k.toList, v) :: members fields).lookup name = _
    rw [List.lookup_cons]
    by_cases h : name = k.toList
    · simp [h]
    · simp [h, beq_eq_false_iff_ne.mpr h]

/-- Objects made of the same fields are alike only when every field is set alike. -/
theorem Alike.forall₂_fields {fs gs : List (String × Option Json)}
    (h : Alike (ofFields fs) (ofFields gs)) (hkeys : fs.map (·.1) = gs.map (·.1))
    (hd : (fs.map (·.1)).Nodup) :
    List.Forall₂ (fun f g => Option.Rel Alike f.2 g.2) fs gs := by
  have hlookup : ∀ name,
      Option.Rel Alike ((members fs).lookup name) ((members gs).lookup name) := h.rel_lookup
  -- the induction needs this of fewer and fewer fields, and not of the objects
  clear h
  induction fs generalizing gs with
  | nil =>
    rw [List.map_eq_nil_iff.mp hkeys.symm]
    exact .nil
  | cons f fs ih =>
    obtain ⟨k, o⟩ := f
    cases gs with
    | nil => cases hkeys
    | cons g gs =>
      obtain ⟨k', o'⟩ := g
      obtain ⟨rfl, hrest⟩ := List.cons.inj hkeys
      obtain ⟨hk, hd⟩ := List.nodup_cons.mp hd
      have hk' : k ∉ gs.map (·.1) := hrest ▸ hk
      refine .cons ?_ (ih hrest hd fun name => ?_)
      · have := hlookup k.toList
        rw [lookup_members_cons, lookup_members_cons, if_pos rfl, if_pos rfl,
          lookup_members_of_not_mem hk, lookup_members_of_not_mem hk', Option.or_none,
          Option.or_none] at this
        exact this
      · -- under the name of the first field the others hold nothing
        by_cases hname : name = k.toList
        · rw [hname, lookup_members_of_not_mem hk, lookup_members_of_not_mem hk']
          exact .none
        · have := hlookup name
          rwa [lookup_members_cons, lookup_members_cons, if_neg hname, if_neg hname] at this

end Docblock.Json
