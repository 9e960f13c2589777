/-
# Docblock.Proofs.Tag.Fields — which fields a tag sets.

A field that has no meaning for a tag is unset, and a field that has one is set even when nothing
was written for it.  So the fields that are set depend on the kind of the tag alone, except that a
reference names either an address with its title or something close by (`setFields_ofText`).
-/
import Docblock.Tag

namespace Docblock.Tag

/-- The names of the fields that are set. -/
def setFields (t : Tag) : List String :=
  ([("types", t.types.isSome), ("name", t.name.isSome), ("description", t.description.isSome),
    ("title", t.title.isSome), ("url", t.url.isSome), ("local", t.target.isSome),
    ("visibility", t.visibility.isSome), ("parent", t.parent.isSome),
    ("otherClass", t.otherClass.isSome), ("otherMemberName", t.otherMemberName.isSome),
    ("thisMemberName", t.thisMemberName.isSome), ("string", t.string.isSome)].filter (·.2)).map
    (·.1)

/-- The fields that the tags of a kind set: one choice, or one of two. -/
def Kind.fieldSets : Kind → List (List String)
  | .param => [["types", "name", "description"]]
  | .return | .throws => [["types", "description"]]
  | .type => [["types"]]
  | .see => [["title", "url"], ["local"]]
  | .api => [["visibility"]]
  | .memberOf => [["parent"]]
  | .augments => [["otherClass"]]
  | .borrows => [["otherMemberName", "thisMemberName"]]
  | .example | .other => [["string"]]

/-- A tag is built from what its first word says behind the at sign, and the words that follow. -/
theorem ofText_of_words {s k : Text} {ws : List Text} (h : Text.words s = ('@' :: k) :: ws) :
    ofText s = build (Kind.ofKeyword k) k ws s := by
  rw [ofText, h]
  simp only [firstWord, List.headD_cons, List.erase_cons_head, List.tail_cons]

/-- What a reference to an address is made of: the address, and a title that may be empty. -/
theorem exists_build_see {s : Text} (h : mentionsAddress s = true) (keyword : Text)
    (ws : List Text) : ∃ title url,
      build .see keyword ws s = { type := keyword, title := some title, url := some url } := by
  simp only [build, h, if_true]
  split <;> exact ⟨_, _, rfl⟩

theorem build_see_of_not_mentionsAddress {s : Text} (h : ¬mentionsAddress s = true)
    (keyword : Text) (ws : List Text) :
    build .see keyword ws s = { type := keyword, target := some (Text.unwords ws) } := by
  simp only [build, if_neg h]

theorem type_build (k : Kind) (keyword : Text) (ws : List Text) (s : Text) :
    (build k keyword ws s).type = keyword := by
  cases k with
  | see =>
    by_cases h : mentionsAddress s = true
    · obtain ⟨title, url, heq⟩ := exists_build_see h keyword ws
      rw [heq]
    · rw [build_see_of_not_mentionsAddress h]
  | _ => rfl

theorem setFields_build (k : Kind) (keyword : Text) (ws : List Text) (s : Text) :
    (build k keyword ws s).setFields ∈ k.fieldSets := by
  cases k with
  | see =>
    -- an address and its title, or else what is meant in the same documentation
    by_cases h : mentionsAddress s = true
    · obtain ⟨title, url, heq⟩ := exists_build_see h keyword ws
      rw [heq]
      exact List.mem_cons_self
    · rw [build_see_of_not_mentionsAddress h]
      exact List.mem_cons_of_mem _ List.mem_cons_self
  | _ => exact List.mem_cons_self

/-- The kind of a tag that is read is that of its keyword, and its fields are those of the kind. -/
theorem setFields_ofText (s : Text) :
    (ofText s).setFields ∈ (Kind.ofKeyword (ofText s).type).fieldSets := by
  have htype : (ofText s).type = (firstWord (Text.words s)).erase '@' := type_build _ _ _ s
  rw [htype]
  exact setFields_build _ _ _ s

end Docblock.Tag
