/-
# Docblock.Proofs.Reference.Anchor — when two entries share an anchor.

An anchor is made from a base and the number of earlier entries with the same base, and no two
entries agree in both.  Two numbered anchors therefore differ: a numeral has no dash, so the last
dash of the anchor shows where the base ends.  What is not ruled out is that the numbered anchor of
one entry is the bare base of another, whose title reads like it; the anchors of a reference are
pairwise different exactly when that does not happen (`nodup_anchors_iff`).
-/
import Docblock.Proofs.Text.Cutting
import Docblock.Reference.Document
import Docblock.Scan
import Mathlib.Data.List.DropRight
import Mathlib.Data.List.Nodup

namespace Docblock

namespace Anchor

/-! ## Numbered anchors -/

theorem isDigit_of_mem_ofNat {k : Nat} {c : Char} (h : c ∈ Numeral.ofNat k) : c.isDigit = true :=
  Nat.isDigit_of_mem_toDigits (by decide) (by decide) h

theorem dash_not_mem_ofNat (k : Nat) : '-' ∉ Numeral.ofNat k :=
  fun h => absurd (isDigit_of_mem_ofNat h) (by decide)

theorem ofNat_injective {k k' : Nat} (h : Numeral.ofNat k = Numeral.ofNat k') : k = k' := by
  calc k = Nat.ofDigitChars 10 (Numeral.ofNat k) 0 := Nat.ofDigitChars_ten_toDigits.symm
    _ = Nat.ofDigitChars 10 (Numeral.ofNat k') 0 := by rw [h]
    _ = k' := Nat.ofDigitChars_ten_toDigits

@[simp] theorem numbered_zero (b : Text) : numbered b 0 = b := if_pos rfl

theorem numbered_of_pos {k : Nat} (hk : 0 < k) (b : Text) :
    numbered b k = b ++ '-' :: Numeral.ofNat k := if_neg (by omega)

/-- The number behind an anchor can be told from its base. -/
theorem numbered_inj {b b' : Text} {k k' : Nat} (hk : 0 < k) (hk' : 0 < k')
    (h : numbered b k = numbered b' k') : b = b' ∧ k = k' := by
  rw [numbered_of_pos hk, numbered_of_pos hk'] at h
  obtain ⟨hb, hn⟩ := Text.append_cons_inj (dash_not_mem_ofNat k) (dash_not_mem_ofNat k') h
  exact ⟨hb, ofNat_injective hn⟩

theorem exists_of_mem_base {title : Text} {c : Char} (h : c ∈ base title) :
    ∃ d, isKept d = true ∧ c = if isBlank d then '-' else d := by
  have hmem : c ∈ (((Text.lower title).filter isKept).map
      fun c => if isBlank c then '-' else c) :=
    (List.dropWhile_suffix _).subset ((List.rdropWhile_prefix _ _).subset h)
  obtain ⟨d, hd, hc⟩ := List.mem_map.mp hmem
  exact ⟨d, (List.mem_filter.mp hd).2, hc.symm⟩

theorem isBlank_of_mem_base {title : Text} {c : Char} (h : c ∈ base title) :
    isBlank c = false := by
  obtain ⟨d, -, rfl⟩ := exists_of_mem_base h
  split
  · decide
  · next hd => exact Bool.eq_false_iff.mpr hd

theorem newline_not_mem_numbered (title : Text) (k : Nat) : '\n' ∉ numbered (base title) k := by
  have hbase : '\n' ∉ base title := fun h => absurd (isBlank_of_mem_base h) (by decide)
  rcases Nat.eq_zero_or_pos k with rfl | hk
  · rwa [numbered_zero]
  · rw [numbered_of_pos hk, List.mem_append, not_or]
    refine ⟨hbase, fun h => ?_⟩
    exact absurd (isDigit_of_mem_ofNat (List.mem_of_ne_of_mem (by decide) h)) (by decide)

/-! ## Occurrences of bases -/

/-- Each base of a list with the number of times it stands before that place, given earlier ones. -/
def occurrencesFrom (earlier : List Text) : List Text → List (Text × Nat)
  | [] => []
  | b :: bs => (b, earlier.count b) :: occurrencesFrom (b :: earlier) bs

theorem assignFrom_eq_map (earlier titles : List Text) :
    assignFrom earlier titles =
      (occurrencesFrom earlier (titles.map base)).map fun o => numbered o.1 o.2 := by
  induction titles generalizing earlier with
  | nil => rfl
  | cons t ts ih => rw [assignFrom, ih, List.map_cons, occurrencesFrom, List.map_cons]

/-- The occurrences of a base are numbered without gaps, from the number of earlier ones on. -/
theorem mem_occurrencesFrom_iff {earlier bs : List Text} {b : Text} {k : Nat} :
    (b, k) ∈ occurrencesFrom earlier bs ↔
      earlier.count b ≤ k ∧ k < earlier.count b + bs.count b := by
  induction bs generalizing earlier with
  | nil =>
    rw [occurrencesFrom, List.count_nil]
    constructor
    · exact fun h => absurd h List.not_mem_nil
    · omega
  | cons c bs ih =>
    rw [occurrencesFrom, List.mem_cons, ih, Prod.mk.injEq]
    by_cases hb : b = c
    · subst hb
      simp only [List.count_cons_self, true_and]
      omega
    · rw [List.count_cons_of_ne (Ne.symm hb), List.count_cons_of_ne (Ne.symm hb)]
      simp only [hb, false_and, false_or]

theorem nodup_occurrencesFrom (earlier bs : List Text) : (occurrencesFrom earlier bs).Nodup := by
  induction bs generalizing earlier with
  | nil => exact List.nodup_nil
  | cons b bs ih =>
    refine List.nodup_cons.mpr ⟨fun h => ?_, ih (b :: earlier)⟩
    -- behind this place the base has one more occurrence in front of it
    have := (mem_occurrencesFrom_iff.mp h).1
    rw [List.count_cons_self] at this
    omega

/-- An anchor stands on one line. -/
theorem newline_not_mem_of_mem_assign {titles : List Text} {a : Text} (h : a ∈ assign titles) :
    '\n' ∉ a := by
  rw [assign, assignFrom_eq_map] at h
  obtain ⟨⟨b, k⟩, ho, rfl⟩ := List.mem_map.mp h
  have hlt := (mem_occurrencesFrom_iff.mp ho).2
  rw [List.count_nil, Nat.zero_add] at hlt
  have hb : b ∈ titles.map base := List.count_pos_iff.mp (by omega)
  obtain ⟨t, -, rfl⟩ := List.mem_map.mp hb
  exact newline_not_mem_numbered t k

/-- The anchors of titles differ unless a numbered anchor is the base of a title. -/
theorem nodup_assign_iff (titles : List Text) :
    (assign titles).Nodup ↔
      ∀ b k, 0 < k → k < (titles.map base).count b → numbered b k ∉ titles.map base := by
  rw [assign, assignFrom_eq_map, List.nodup_map_iff_inj_on (nodup_occurrencesFrom _ _)]
  constructor
  · intro h b k hk hlt hmem
    have hb : (b, k) ∈ occurrencesFrom [] (titles.map base) :=
      mem_occurrencesFrom_iff.mpr ⟨Nat.zero_le k, by rwa [List.count_nil, Nat.zero_add]⟩
    have hn : (numbered b k, 0) ∈ occurrencesFrom [] (titles.map base) := by
      refine mem_occurrencesFrom_iff.mpr ⟨Nat.le_refl 0, ?_⟩
      rw [List.count_nil, Nat.zero_add]
      exact List.count_pos_iff.mpr hmem
    have := (Prod.mk.inj (h _ hb _ hn (numbered_zero _).symm)).2
    omega
  · rintro h ⟨b, k⟩ hx ⟨b', k'⟩ hy (heq : numbered b k = numbered b' k')
    -- each of the two bases stands in the list, more often than the number behind its anchor
    have hlt := (mem_occurrencesFrom_iff.mp hx).2
    have hlt' := (mem_occurrencesFrom_iff.mp hy).2
    rw [List.count_nil, Nat.zero_add] at hlt hlt'
    have hmem : b ∈ titles.map base := List.count_pos_iff.mp (by omega)
    have hmem' : b' ∈ titles.map base := List.count_pos_iff.mp (by omega)
    rcases Nat.eq_zero_or_pos k with rfl | hk
    · rcases Nat.eq_zero_or_pos k' with rfl | hk'
      · rw [numbered_zero, numbered_zero] at heq
        rw [heq]
      · rw [numbered_zero] at heq
        exact absurd (heq ▸ hmem) (h b' k' hk' hlt')
    · rcases Nat.eq_zero_or_pos k' with rfl | hk'
      · rw [numbered_zero] at heq
        exact absurd (heq ▸ hmem') (h b k hk hlt)
      · obtain ⟨rfl, rfl⟩ := numbered_inj hk hk' heq
        rfl

end Anchor

namespace Entry

/-! ## Entries -/

/-- The signatures of the documented comments of a list, in order. -/
def signatures (cs : List Comment) : List Text :=
  (cs.filterMap documented?).map fun p => signatureOf p.1 p.2

/-- The bases of the anchors of a list of comments, in order. -/
def bases (cs : List Comment) : List Text := (signatures cs).map Anchor.base

theorem length_assignFrom (earlier titles : List Text) :
    (Anchor.assignFrom earlier titles).length = titles.length := by
  induction titles generalizing earlier with
  | nil => rfl
  | cons t ts ih => rw [Anchor.assignFrom, List.length_cons, ih, List.length_cons]

theorem length_assign_signatures (cs : List Comment) :
    (Anchor.assign (signatures cs)).length = (signatures cs).length :=
  length_assignFrom [] (signatures cs)

/-- Each documented comment has a signature and an anchor. -/
theorem length_zip_signatures (cs : List Comment) :
    ((signatures cs).zip (Anchor.assign (signatures cs))).length =
      (cs.filterMap documented?).length := by
  rw [List.length_zip, length_assign_signatures, Nat.min_self, signatures, List.length_map]

/-- The entries have the anchors of their signatures. -/
theorem anchors_ofComments (cs : List Comment) :
    (ofComments cs).map (·.anchor) = Anchor.assign (signatures cs) := by
  have hl := length_assign_signatures cs
  have hz := length_zip_signatures cs
  calc (ofComments cs).map (·.anchor)
      = (((cs.filterMap documented?).zip
          ((signatures cs).zip (Anchor.assign (signatures cs)))).map Prod.snd).map Prod.snd := by
        rw [ofComments, List.map_map, List.map_map]
        rfl
    _ = ((signatures cs).zip (Anchor.assign (signatures cs))).map Prod.snd := by
        rw [List.map_snd_zip (by omega)]
    _ = Anchor.assign (signatures cs) := List.map_snd_zip (by omega)

/-- The anchors of a reference are pairwise different exactly when no numbered anchor is the base of
an entry. -/
theorem nodup_anchors_iff (cs : List Comment) :
    ((ofComments cs).map (·.anchor)).Nodup ↔
      ∀ b k, 0 < k → k < (bases cs).count b → Anchor.numbered b k ∉ bases cs := by
  rw [anchors_ofComments, Anchor.nodup_assign_iff, bases]

/-- The second of two equal signatures and the signature of the third entry meet on one anchor. -/
theorem anchors_not_nodup :
    ¬ ((ofComments (Scan.ofSource Style.untouched
      ("/** A */\nfunction f() \x7b\x7d\n/** B */\nfunction f() \x7b\x7d\n" ++
        "/** @param -1 */\nfunction f() \x7b\x7d\n").toList).comments).map (·.anchor)).Nodup := by
  decide +kernel

end Entry

end Docblock
