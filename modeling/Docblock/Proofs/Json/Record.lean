/-
# Docblock.Proofs.Json.Record — comments as values hold no numbers.

Everything a comment says is a text, a list of texts, or one of two answers, so the values in which
comments are handed out are free of numbers and can be read back from what is written for them.
-/
import Docblock.Record
import Docblock.Proofs.Json.RoundTrip

namespace Docblock

namespace Json

/-! ## Fields and lists -/

/-- A field that is unset or whose value is free of numbers. -/
def FieldFree (o : Option Json) : Prop := ∀ v, o = some v → NumberFree v

theorem FieldFree.some {v : Json} (h : NumberFree v) : FieldFree (some v) := by
  intro u hu
  rw [← Option.some.inj hu]
  exact h

theorem FieldFree.map {α : Type} {f : α → Json} (h : ∀ a, NumberFree (f a)) (o : Option α) :
    FieldFree (o.map f) := by
  intro v hv
  obtain ⟨a, -, rfl⟩ := Option.map_eq_some_iff.mp hv
  exact h a

theorem NumberFree.ofFields {fields : List (String × Option Json)}
    (h : ∀ f ∈ fields, FieldFree f.2) : NumberFree (Json.ofFields fields) := by
  refine NumberFree.object fun m hm => ?_
  obtain ⟨⟨k, o⟩, hf, hm⟩ := List.mem_filterMap.mp hm
  obtain ⟨v, hv, rfl⟩ := Option.map_eq_some_iff.mp hm
  exact h _ hf v hv

theorem NumberFree.ofText? (s : Option Text) : NumberFree (Json.ofText? s) := by
  cases s with
  | none => exact NumberFree.null
  | some s => exact NumberFree.string s

theorem NumberFree.map {α : Type} {f : α → Json} (h : ∀ a, NumberFree (f a)) (as : List α) :
    NumberFree (.array (as.map f)) := by
  refine NumberFree.array fun v hv => ?_
  obtain ⟨a, -, rfl⟩ := List.mem_map.mp hv
  exact h a

end Json

open Json (NumberFree FieldFree)

/-! ## What a comment consists of -/

theorem Tag.numberFree_toJson (t : Tag) : NumberFree t.toJson := by
  refine NumberFree.ofFields ?_
  simp only [List.forall_mem_cons, FieldFree.map NumberFree.string, true_and]
  exact ⟨.some (.string _), .map (fun ts => .map .string ts) _,
    fun _ h => absurd h List.not_mem_nil⟩

theorem Description.numberFree_toJson (d : Description) : NumberFree d.toJson := by
  refine NumberFree.ofFields ?_
  simp only [List.forall_mem_cons, FieldFree.some (NumberFree.string _), true_and]
  exact fun _ h => absurd h List.not_mem_nil

theorem Scope.numberFree_toJson (s : Scope) : NumberFree s.toJson := by
  refine NumberFree.ofFields ?_
  simp only [List.forall_mem_cons]
  exact ⟨.some (.ofText? _), .some (.string _), fun _ h => absurd h List.not_mem_nil⟩

theorem Declaration.numberFree_toJson (d : Declaration) : NumberFree d.toJson := by
  refine NumberFree.ofFields ?_
  simp only [List.forall_mem_cons, FieldFree.some (NumberFree.string _), true_and]
  exact ⟨.map Scope.numberFree_toJson _, .map .string _, fun _ h => absurd h List.not_mem_nil⟩

theorem Comment.numberFree_toJson (k : Comment) : NumberFree k.toJson := by
  have hctx : NumberFree ((k.declaration.map Declaration.toJson).getD .null) := by
    cases k.declaration with
    | none => exact NumberFree.null
    | some d => exact d.numberFree_toJson
  refine NumberFree.ofFields ?_
  simp only [List.forall_mem_cons]
  exact ⟨.some (.map Tag.numberFree_toJson _), .some k.description.numberFree_toJson,
    .some (.bool _), .some (.bool _), .map .string _, .map (fun _ => hctx) _,
    fun _ h => absurd h List.not_mem_nil⟩

end Docblock
