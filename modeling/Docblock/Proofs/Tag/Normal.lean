/-
# Docblock.Proofs.Tag.Normal — the type names of a text are a normal form.

Whatever stands in a type expression, a name that is read off it has no blanks around it and no
separator in it; braces and blanks inside may stay.  Names of this kind, put between braces with one
separator between neighbours, are read back as they are (`typeNames_written`): the one brace on each
side that reading takes off is the one that was put there, even next to a brace of a name.  Main
statement: the lists that are read are the lists of such names, and reading them again changes
nothing (`typeNames_normal`).
-/
import Docblock.Proofs.Tag.Typed

namespace Docblock.Tag

open Text (Tight join trim)

variable {c : Char} {n s : Text} {ns : List Text}

/-- A type name as it is read: it begins and ends with characters that are not blank, and none of
the three separators stands in it. -/
structure IsNormal (n : Text) : Prop where
  tight : Tight n
  not_bar : '|' ∉ n
  not_comma : ',' ∉ n
  not_slash : '/' ∉ n

/-- Type names between braces, with the separator `c` between neighbours. -/
def written (c : Char) (ns : List Text) : Text := '\x7b' :: (join [c] ns ++ ['\x7d'])

/-! ## Names that are read -/

theorem isTypeSeparator_iff : isTypeSeparator c = true ↔ c ∈ ['|', ',', '/'] := by
  simp [isTypeSeparator, or_assoc]

theorem IsNormal.not_separator (h : IsNormal n) : ∀ x ∈ n, isTypeSeparator x = false := by
  intro x hx
  rw [Bool.eq_false_iff]
  intro hsep
  simp only [isTypeSeparator_iff, List.mem_cons, List.not_mem_nil, or_false] at hsep
  rcases hsep with rfl | rfl | rfl
  · exact h.not_bar hx
  · exact h.not_comma hx
  · exact h.not_slash hx

theorem isNormal_of_mem_typeNames (h : n ∈ typeNames s) : IsNormal n := by
  obtain ⟨hmem, hne⟩ := List.mem_filter.mp h
  obtain ⟨p, hp, rfl⟩ := List.mem_map.mp hmem
  -- the name is a piece between separators, trimmed
  have hfree : ∀ x, isTypeSeparator x = true → x ∉ trim p := by
    intro x hsep hx
    have hnot := (Text.of_mem_splitOnP hp (Text.mem_of_mem_trim hx)).2
    exact Bool.false_ne_true (hnot.symm.trans hsep)
  exact {
    tight := Text.tight_of_trim_eq (Text.trim_trim p) (by simpa using hne)
    not_bar := hfree '|' (by decide)
    not_comma := hfree ',' (by decide)
    not_slash := hfree '/' (by decide) }

/-! ## Names that are written -/

theorem splitOnP_join (hc : isTypeSeparator c = true) (hn : IsNormal n)
    (hns : ∀ m ∈ ns, IsNormal m) : (join [c] (n :: ns)).splitOnP isTypeSeparator = n :: ns := by
  induction ns generalizing n with
  | nil =>
    rw [join, List.intercalate_singleton]
    exact List.splitOnP_eq_singleton hn.not_separator
  | cons m ns ih =>
    obtain ⟨hm, hrest⟩ := List.forall_mem_cons.mp hns
    rw [Text.join_cons_cons, List.singleton_append,
      List.splitOnP_append_cons_of_forall_mem hn.not_separator c hc, ih hm hrest]

/-- Between its braces the list is what the braces hold. -/
theorem unbrace_trim_written (c : Char) (ns : List Text) :
    unbrace (trim (written c ns)) = join [c] ns := by
  have htight : Tight (written c ns) :=
    { front := ⟨'\x7b', _, rfl, by decide⟩
      back := ⟨'\x7b' :: join [c] ns, '\x7d', rfl, by decide⟩ }
  rw [htight.trim_eq]
  exact TypeExpression.unbrace_braced (join [c] ns)

theorem typeNames_written (hc : isTypeSeparator c = true) (hns : ∀ n ∈ ns, IsNormal n) :
    typeNames (written c ns) = ns := by
  rw [typeNames, unbrace_trim_written]
  cases ns with
  | nil => rfl
  | cons n ns =>
    obtain ⟨hn, hrest⟩ := List.forall_mem_cons.mp hns
    have htrim : (n :: ns).map trim = n :: ns := by
      rw [List.map_congr_left fun m hm => (hns m hm).tight.trim_eq, List.map_id']
    have hfilled : ∀ m ∈ n :: ns, (!m.isEmpty) = true := by
      intro m hm
      obtain ⟨x, t, rfl, -⟩ := (hns m hm).tight.front
      rfl
    rw [splitOnP_join hc hn hrest, htrim, List.filter_eq_self.mpr hfilled]

/-! ## Main statement -/

/-- The names that are read of a text are normal, and normal lists of names are all read of some
text.  Written between braces with any one of the separators between them, the names of a text are
read again as they are. -/
theorem typeNames_normal (s : Text) :
    (∀ n ∈ typeNames s, IsNormal n) ∧
    (∀ c ∈ ['|', ',', '/'], typeNames (written c (typeNames s)) = typeNames s) ∧
    ∀ ns, (∃ t, typeNames t = ns) ↔ ∀ n ∈ ns, IsNormal n := by
  have hnormal : ∀ t, ∀ n ∈ typeNames t, IsNormal n := fun t n hn => isNormal_of_mem_typeNames hn
  refine ⟨hnormal s, fun c hc => ?_, fun ns => ⟨?_, fun hns => ?_⟩⟩
  · exact typeNames_written (isTypeSeparator_iff.mpr hc) (hnormal s)
  · rintro ⟨t, rfl⟩
    exact hnormal t
  · exact ⟨written '|' ns, typeNames_written (by decide) hns⟩

/-- Names with braces of their own, next to the outer ones. -/
def bracedNames : Text := " \x7b\x7ba b\x7d |,\t\x7dc /\u00a0\x7d\n".toList

/-- Both names are read again, with their braces. -/
theorem typeNames_normal_braced :
    '/' ∈ ['|', ',', '/'] ∧
      typeNames bracedNames = ["\x7ba b\x7d".toList, "\x7dc".toList] ∧
      typeNames "\x7b\x7ba b\x7d/\x7dc\x7d".toList = ["\x7ba b\x7d".toList, "\x7dc".toList] := by
  have hread : typeNames bracedNames = ["\x7ba b\x7d".toList, "\x7dc".toList] := by decide
  have hagain := (typeNames_normal bracedNames).2.1 '/' (by decide)
  rw [hread] at hagain
  exact ⟨by decide, hread, hagain⟩

end Docblock.Tag
