/-
# Docblock.Proofs.Html.Escape — what escaping leaves of a text.

The lenient form writes one character after the other: an ampersand or an angle bracket becomes an
entity, or stays, and every other character stays.  No line feed arises from that and nothing blank
comes to stand at the end, so a title is still a title when it is escaped.
-/
import Docblock.Html.Escape
import Docblock.Proofs.Text.Words

namespace Docblock.Html

/-- The entities that the lenient form writes. -/
def looseEntities : List Text := ["&amp;".toList, "&lt;".toList, "&gt;".toList]

/-- What is written for a character in front of a text: the character itself, or an entity. -/
theorem exists_escapeLoose_cons (c : Char) (s : Text) :
    ∃ here, escapeLoose (c :: s) = here ++ escapeLoose s ∧
      (here = [c] ∨ here ∈ looseEntities) := by
  rw [escapeLoose]
  refine ⟨_, rfl, ?_⟩
  split
  · next h =>
    -- an ampersand that begins an entity stays
    rw [Bool.and_eq_true, beq_iff_eq] at h
    exact .inl (by rw [h.1])
  · split
    · exact .inl rfl
    · unfold escapeChar
      split
      · exact .inr List.mem_cons_self
      · split
        · exact .inr (List.mem_cons_of_mem _ List.mem_cons_self)
        · split
          · exact .inr (List.mem_cons_of_mem _ (List.mem_cons_of_mem _ List.mem_cons_self))
          · exact .inl rfl

theorem newline_not_mem_escapeLoose {s : Text} (h : '\n' ∉ s) : '\n' ∉ escapeLoose s := by
  induction s with
  | nil => exact List.not_mem_nil
  | cons c s ih =>
    obtain ⟨here, heq, hhere⟩ := exists_escapeLoose_cons c s
    rw [heq, List.mem_append, not_or]
    refine ⟨?_, ih fun hn => h (List.mem_cons_of_mem c hn)⟩
    rcases hhere with rfl | hhere
    · exact fun hn => h (List.mem_singleton.mp hn ▸ List.mem_cons_self)
    · have hentities : ∀ e ∈ looseEntities, '\n' ∉ e := by decide
      exact hentities here hhere

theorem exists_escapeLoose_concat (s : Text) {x : Char} (hx : isBlank x = false) :
    ∃ t y, escapeLoose (s ++ [x]) = t ++ [y] ∧ isBlank y = false := by
  induction s with
  | nil =>
    obtain ⟨here, heq, hhere⟩ := exists_escapeLoose_cons x []
    rw [List.nil_append, heq, escapeLoose, List.append_nil]
    rcases hhere with rfl | hhere
    · exact ⟨[], x, rfl, hx⟩
    · -- an entity ends with a semicolon
      have hentities : ∀ e ∈ looseEntities, e = e.dropLast ++ [';'] := by decide
      exact ⟨here.dropLast, ';', hentities here hhere, by decide⟩
  | cons c s ih =>
    obtain ⟨t, y, ht, hy⟩ := ih
    obtain ⟨here, heq, -⟩ := exists_escapeLoose_cons c (s ++ [x])
    refine ⟨here ++ t, y, ?_, hy⟩
    rw [List.cons_append, heq, ht, List.append_assoc]

/-- An escaped title is a title. -/
theorem isTitle_escapeLoose {s : Text} (h : Text.IsTitle s) : Text.IsTitle (escapeLoose s) where
  newline := newline_not_mem_escapeLoose h.newline
  back := by
    obtain ⟨t, x, rfl, hx⟩ := h.back
    exact exists_escapeLoose_concat t hx

end Docblock.Html
