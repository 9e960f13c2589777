/-
# Docblock.Proofs.Scan.Member — what holds of every comment of a scan.

Whatever a source looks like, its comments come about in one way only: tags are read from texts, and
a declaration from the code that the comment carries, with the owner blocks of the whole source
around it (`ofScan_of_mem`).  What can be said of a tag or a declaration that was read can therefore
be said of all that a scan hands out.
-/
import Docblock.Proofs.Scan.Owner

namespace Docblock

/-- A comment as the scan of a source makes it: every tag was read from a text, and what is declared
was read from the code that is carried. -/
structure Comment.OfScan (s : Text) (k : Comment) : Prop where
  tag : ∀ t ∈ k.tags, ∃ u, t = Tag.ofText u
  declaration : ∀ d, k.declaration = some d → ∃ (code : Text) (place : Int),
    k.code = some code ∧ Declaration.ofCode? code place (OwnerBlock.inSource s) = some d

namespace Layout

variable {st : Style} {blocks : List OwnerBlock} {l : Layout} {k : Comment}

theorem declaration_of_mem_bareComments (h : k ∈ l.bareComments st) : k.declaration = none := by
  unfold bareComments at h
  split at h
  · rw [List.mem_singleton.mp h]
  · obtain ⟨p, -, rfl⟩ := List.mem_map.mp h
    rfl

theorem tag_of_mem_bareComments (h : k ∈ l.bareComments st) :
    ∀ t ∈ k.tags, ∃ u, t = Tag.ofText u := by
  intro t ht
  unfold bareComments at h
  split at h
  · rw [List.mem_singleton.mp h] at ht
    exact absurd ht List.not_mem_nil
  · obtain ⟨p, -, rfl⟩ := List.mem_map.mp h
    obtain ⟨u, -, rfl⟩ := List.mem_map.mp ht
    exact ⟨u, rfl⟩

/-- A comment of a layout says what a block comment says, and carries a run of code. -/
theorem exists_withCode_of_mem (h : k ∈ l.comments st blocks) :
    ∃ (bare : Comment) (place : Nat) (code : Text),
      bare ∈ l.bareComments st ∧ k = bare.withCode blocks place code := by
  obtain ⟨i, hi⟩ := List.mem_iff_getElem?.mp h
  rw [comments_eq_zipWith, List.getElem?_zipWith] at hi
  cases hbare : (l.bareComments st)[i]? with
  | none => simp [hbare] at hi
  | some bare =>
    cases hrun : l.carried[i]? with
    | none => simp [hbare, hrun] at hi
    | some run =>
      simp only [hbare, hrun, Option.some.injEq] at hi
      exact ⟨bare, run.1, run.2, List.mem_of_getElem? hbare, hi.symm⟩

end Layout

namespace Scan

theorem ofScan_of_mem {st : Style} {source : Text} {k : Comment}
    (h : k ∈ (ofSource st source).comments) : k.OfScan (unifyNewlines source) := by
  obtain ⟨bare, place, code, hbare, rfl⟩ := Layout.exists_withCode_of_mem h
  constructor
  · rw [Comment.withCode_tags]
    exact Layout.tag_of_mem_bareComments hbare
  · intro d hd
    -- a blank run of code is not carried, and a comment alone declares nothing
    cases hb : Text.blank code with
    | true =>
      rw [Comment.withCode_of_blank _ _ _ hb, Layout.declaration_of_mem_bareComments hbare] at hd
      cases hd
    | false =>
      rw [Comment.withCode_of_not_blank _ _ _ hb] at hd ⊢
      exact ⟨_, _, rfl, hd⟩

end Scan

end Docblock
