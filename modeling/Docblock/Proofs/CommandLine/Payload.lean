/-
# Docblock.Proofs.CommandLine.Payload — the object made of several sources.

The comments of several sources are handed out as one object whose members bear the names of the
sources.  A name that comes again sets its member again: the object holds no name twice, and under
each name the comments of the last source of that name.  So it holds all sources, with one member
each, when their names differ, and only then (`setAll_holds_all_iff`).
-/
import Docblock.CommandLine.Run
import Docblock.Proofs.Json.Record
import Mathlib.Data.List.Nodup
import Mathlib.Data.List.Perm.Subperm

namespace Docblock.CommandLine

/-! ## Setting a member -/

/-- The names of members, in order. -/
def names (ms : List (Text × Json)) : List Text := ms.map Prod.fst

@[simp] theorem names_nil : names [] = [] := rfl

@[simp] theorem names_cons (m : Text × Json) (ms : List (Text × Json)) :
    names (m :: ms) = m.1 :: names ms := rfl

@[simp] theorem length_names (ms : List (Text × Json)) : (names ms).length = ms.length :=
  List.length_map _

theorem lookup_cons (m : Text × Json) (ms : List (Text × Json)) (k : Text) :
    (m :: ms).lookup k = if k = m.1 then some m.2 else ms.lookup k := by
  rw [List.lookup_cons]
  by_cases hk : k = m.1
  · rw [if_pos hk, beq_iff_eq.mpr hk]
  · rw [if_neg hk, beq_eq_false_iff_ne.mpr hk]

/-- A name stays where it is, or comes to the end. -/
theorem names_setMember (n : Text) (v : Json) (ms : List (Text × Json)) :
    names (setMember n v ms) = if n ∈ names ms then names ms else names ms ++ [n] := by
  induction ms with
  | nil => rfl
  | cons m ms ih =>
    obtain ⟨k, u⟩ := m
    by_cases hk : k = n
    · rw [setMember, if_pos hk, names_cons, names_cons, if_pos (hk ▸ List.mem_cons_self), hk]
    · rw [setMember, if_neg hk, names_cons, names_cons, ih]
      by_cases hn : n ∈ names ms
      · rw [if_pos hn, if_pos (List.mem_cons_of_mem k hn)]
      · rw [if_neg hn, if_neg (List.not_mem_cons_of_ne_of_not_mem (Ne.symm hk) hn),
          List.cons_append]

theorem lookup_setMember (n : Text) (v : Json) (ms : List (Text × Json)) (k : Text) :
    (setMember n v ms).lookup k = if k = n then some v else ms.lookup k := by
  induction ms with
  | nil => exact lookup_cons (n, v) [] k
  | cons m ms ih =>
    obtain ⟨j, u⟩ := m
    by_cases hj : j = n
    · rw [setMember, if_pos hj, lookup_cons, lookup_cons, hj]
      split <;> rfl
    · rw [setMember, if_neg hj, lookup_cons, lookup_cons, ih]
      by_cases hk : k = j
      · rw [if_pos hk, if_pos hk, if_neg (hk ▸ hj)]
      · rw [if_neg hk, if_neg hk]

theorem setMember_of_not_mem {n : Text} {ms : List (Text × Json)} (h : n ∉ names ms) (v : Json) :
    setMember n v ms = ms ++ [(n, v)] := by
  induction ms with
  | nil => rfl
  | cons m ms ih =>
    obtain ⟨k, u⟩ := m
    have hk : k ≠ n := (List.ne_of_not_mem_cons h).symm
    rw [setMember, if_neg hk, ih (List.not_mem_of_not_mem_cons h), List.cons_append]

theorem mem_of_mem_setMember {n : Text} {v : Json} {ms : List (Text × Json)} {m : Text × Json}
    (h : m ∈ setMember n v ms) : m = (n, v) ∨ m ∈ ms := by
  induction ms with
  | nil => exact Or.inl (List.mem_singleton.mp h)
  | cons p ms ih =>
    obtain ⟨k, u⟩ := p
    by_cases hk : k = n
    · rw [setMember, if_pos hk] at h
      exact (List.mem_cons.mp h).imp id (List.mem_cons_of_mem (k, u))
    · rw [setMember, if_neg hk] at h
      rcases List.mem_cons.mp h with rfl | h
      · exact Or.inr List.mem_cons_self
      · exact (ih h).imp id (List.mem_cons_of_mem (k, u))

/-! ## Setting members one after the other -/

/-- The members that are left when members are set one after the other. -/
def setAll (fs ms : List (Text × Json)) : List (Text × Json) :=
  fs.foldl (fun ms f => setMember f.1 f.2 ms) ms

theorem setAll_cons (f : Text × Json) (fs ms : List (Text × Json)) :
    setAll (f :: fs) ms = setAll fs (setMember f.1 f.2 ms) := rfl

theorem nodup_names_setAll {fs ms : List (Text × Json)} (h : (names ms).Nodup) :
    (names (setAll fs ms)).Nodup := by
  induction fs generalizing ms with
  | nil => exact h
  | cons f fs ih =>
    rw [setAll_cons]
    refine ih ?_
    rw [names_setMember]
    split
    · exact h
    · next hn =>
      rw [← List.concat_eq_append]
      exact (List.nodup_concat _ _).mpr ⟨hn, h⟩

theorem mem_names_setAll {fs ms : List (Text × Json)} {n : Text} :
    n ∈ names (setAll fs ms) ↔ n ∈ names ms ∨ n ∈ names fs := by
  induction fs generalizing ms with
  | nil => simp [setAll]
  | cons f fs ih =>
    have hf : n ∈ names (setMember f.1 f.2 ms) ↔ n ∈ names ms ∨ n = f.1 := by
      rw [names_setMember]
      split
      · next hm => exact ⟨Or.inl, fun h => h.elim id fun he => he ▸ hm⟩
      · simp
    rw [setAll_cons, ih, hf, names_cons, List.mem_cons, or_assoc]

theorem mem_of_mem_setAll {fs ms : List (Text × Json)} {m : Text × Json} (h : m ∈ setAll fs ms) :
    m ∈ fs ∨ m ∈ ms := by
  induction fs generalizing ms with
  | nil => exact Or.inr h
  | cons f fs ih =>
    rw [setAll_cons] at h
    rcases ih h with h | h
    · exact Or.inl (List.mem_cons_of_mem f h)
    · rcases mem_of_mem_setMember h with rfl | h
      · exact Or.inl List.mem_cons_self
      · exact Or.inr h

/-- Of several members with one name the last one stays. -/
theorem lookup_setAll (fs ms : List (Text × Json)) (k : Text) :
    (setAll fs ms).lookup k = (fs.reverse.lookup k).or (ms.lookup k) := by
  induction fs generalizing ms with
  | nil => rfl
  | cons f fs ih =>
    rw [setAll_cons, ih, lookup_setMember, List.reverse_cons, List.lookup_append, lookup_cons,
      Option.or_assoc]
    split <;> rfl

/-- Members whose names differ all stay, in order. -/
theorem setAll_of_nodup {fs ms : List (Text × Json)} (h : (names (ms ++ fs)).Nodup) :
    setAll fs ms = ms ++ fs := by
  induction fs generalizing ms with
  | nil => exact (List.append_nil ms).symm
  | cons f fs ih =>
    have hsplit : ms ++ f :: fs = ms ++ [f] ++ fs := by simp
    have hn : f.1 ∉ names ms := by
      rw [names, List.map_append, List.nodup_append] at h
      exact fun hm => h.2.2 f.1 hm f.1 List.mem_cons_self rfl
    rw [setAll_cons, setMember_of_not_mem hn, hsplit]
    exact ih (hsplit ▸ h)

/-- Members that are set one after the other are all there in the end, each in a place of its own,
when their names differ, and only then. -/
theorem setAll_holds_all_iff (fs : List (Text × Json)) :
    ((setAll fs []).length = fs.length ∧ ∀ f ∈ fs, f ∈ setAll fs []) ↔ (names fs).Nodup := by
  constructor
  · -- the object holds each name once: as many members as were set leave no name for two
    rintro ⟨hlen, -⟩
    have hnodup : (names (setAll fs [])).Nodup := nodup_names_setAll List.nodup_nil
    have hsub : names (setAll fs []) ⊆ names fs := fun n hn =>
      (mem_names_setAll.mp hn).resolve_left List.not_mem_nil
    have hperm : (names (setAll fs [])).Perm (names fs) := by
      refine (hnodup.subperm hsub).perm_of_length_le ?_
      rw [length_names, length_names]
      exact Nat.le_of_eq hlen.symm
    exact hperm.nodup_iff.mp hnodup
  · intro h
    have hall : setAll fs [] = fs := setAll_of_nodup h
    rw [hall]
    exact ⟨rfl, fun f hf => hf⟩

/-! ## The payload -/

theorem numberFree_commentsJson (cs : List Comment) : Json.NumberFree (commentsJson cs) :=
  .map Comment.numberFree_toJson cs

theorem payload_of_length_ne_one {rs : List (Text × List Comment)} (h : rs.length ≠ 1) :
    payload rs = .object (setAll (rs.map fun r => (r.1, commentsJson r.2)) []) := by
  unfold payload
  split
  · exact absurd rfl h
  · rw [setAll, List.foldl_map]

theorem numberFree_payload (rs : List (Text × List Comment)) : Json.NumberFree (payload rs) := by
  by_cases h : rs.length = 1
  · obtain ⟨r, rfl⟩ := List.length_eq_one_iff.mp h
    exact numberFree_commentsJson r.2
  · rw [payload_of_length_ne_one h]
    refine Json.NumberFree.object fun m hm => ?_
    obtain ⟨r, -, rfl⟩ := List.mem_map.mp ((mem_of_mem_setAll hm).resolve_right List.not_mem_nil)
    exact numberFree_commentsJson r.2

end Docblock.CommandLine
