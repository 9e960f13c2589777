/-
# Docblock.Proofs.Reference.Numbering — which number an anchor gets.

The entries of a reference are those of the comments that are listed, in order, and the anchor of an
entry counts the comments in front that are listed and have the same base.  What stands behind a
comment does not matter, nor do comments that are not listed; so the entries of a list of comments
begin those of a longer one.  Main statement: `ofComments_numbered`.
-/
import Docblock.Proofs.Reference.ReadBack

namespace Docblock

namespace Anchor

/-! ## Bases -/

theorem of_mem_base {title : Text} {c : Char} (h : c ∈ base title) :
    c.isLower = true ∨ c.isDigit = true ∨ c = '-' := by
  obtain ⟨d, hd, rfl⟩ := exists_of_mem_base h
  split
  · exact .inr (.inr rfl)
  · next hb =>
    simp only [isKept, hb, Bool.or_false, Bool.or_eq_true, beq_iff_eq] at hd
    tauto

/-- What a base is made of; the dashes in it stand between other characters. -/
structure IsBase (b : Text) : Prop where
  kept : ∀ c ∈ b, c.isLower = true ∨ c.isDigit = true ∨ c = '-'
  front : ¬ ['-'] <+: b
  back : ¬ ['-'] <:+ b

theorem isBase_base (title : Text) : IsBase (base title) where
  kept _ h := of_mem_base h
  front := Text.not_prefix_dropAround (p := (· == '-')) rfl _
  back := Text.not_suffix_dropAround (p := (· == '-')) rfl _

/-! ## Occurrences at a place -/

/-- A base is counted with its earlier occurrences, whatever stands behind it. -/
theorem getElem?_occurrencesFrom (earlier bs : List Text) (b : Text) (later : List Text) :
    (occurrencesFrom earlier (bs ++ b :: later))[bs.length]? =
      some (b, earlier.count b + bs.count b) := by
  induction bs generalizing earlier with
  | nil => rfl
  | cons c bs ih =>
    rw [List.cons_append, occurrencesFrom, List.length_cons, List.getElem?_cons_succ, ih]
    simp only [List.count_cons]
    congr 2
    omega

theorem getElem?_assign (titles : List Text) (t : Text) (later : List Text) :
    (assign (titles ++ t :: later))[titles.length]? =
      some (numbered (base t) ((titles.map base).count (base t))) := by
  have hplace := getElem?_occurrencesFrom [] (titles.map base) (base t) (later.map base)
  rw [List.length_map, List.count_nil, Nat.zero_add] at hplace
  rw [assign, assignFrom_eq_map, List.map_append, List.map_cons, List.getElem?_map, hplace]
  rfl

end Anchor

namespace Entry

/-! ## Entries at a place -/

/-- The comments that are listed, in order. -/
def listed (cs : List Comment) : List Comment := cs.filter fun k => IsListed k

/-- The base of the anchor of a comment, if it is listed. -/
def base? (k : Comment) : Option Text :=
  (documented? k).map fun p => Anchor.base (signatureOf p.1 p.2)

/-- How many comments have an anchor with the base `b`. -/
def timesBased (b : Text) (cs : List Comment) : Nat := cs.countP fun k => base? k = some b

theorem count_bases (b : Text) (cs : List Comment) : (bases cs).count b = timesBased b cs := by
  have hbases : bases cs = cs.filterMap base? := by
    rw [bases, signatures, List.map_map, List.map_filterMap]
    rfl
  rw [hbases, List.count_filterMap, timesBased]
  congr 1
  funext k
  exact beq_eq_decide _ _

/-- The entry `e` is that of the comment `k` with the declaration `d`, behind the comments `front`;
the number of its anchor is that of the comments in front with the same base. -/
structure Numbered (front : List Comment) (k : Comment) (d : Declaration) (e : Entry) : Prop where
  base : Anchor.IsBase (Anchor.base (signatureOf k d))
  signature : e.signature = Html.escapeLoose (signatureOf k d)
  description : e.description = indent (Text.trim k.description.full)
  anchor : e.anchor =
    if timesBased (Anchor.base (signatureOf k d)) front = 0 then Anchor.base (signatureOf k d)
    else Anchor.base (signatureOf k d) ++
      '-' :: Numeral.ofNat (timesBased (Anchor.base (signatureOf k d)) front)

/-- Comments that are not listed change nothing. -/
theorem ofComments_listed (cs : List Comment) : ofComments (listed cs) = ofComments cs := by
  have hlisted : (listed cs).filterMap documented? = cs.filterMap documented? := by
    rw [listed, List.filterMap_filter]
    congr 1
    funext k
    by_cases hk : IsListed k
    · rw [if_pos (decide_eq_true hk)]
    · rw [documented?_of_not_isListed hk, ite_self]
  rw [ofComments, ofComments, hlisted]

/-- The entry at a place has what stands at this place in the lists that entries are made from. -/
theorem getElem?_ofComments {cs : List Comment} {i : Nat} {k : Comment} {d : Declaration} {a : Text}
    (hk : (cs.filterMap documented?)[i]? = some (k, d))
    (ha : (Anchor.assign (signatures cs))[i]? = some a) :
    (ofComments cs)[i]? =
      some ⟨Html.escapeLoose (signatureOf k d), a, indent (Text.trim k.description.full)⟩ := by
  have hs : (signatures cs)[i]? = some (signatureOf k d) := by
    rw [signatures, List.getElem?_map, hk]
    rfl
  have hzip : ((cs.filterMap documented?).zip
      ((signatures cs).zip (Anchor.assign (signatures cs))))[i]? =
        some ((k, d), signatureOf k d, a) :=
    List.getElem?_zip_eq_some.mpr ⟨hk, List.getElem?_zip_eq_some.mpr ⟨hs, ha⟩⟩
  rw [ofComments, List.getElem?_map]
  exact congrArg _ hzip

/-- The entry of a listed comment depends on the listed comments in front of it. -/
theorem exists_numbered {cs front back : List Comment} {k : Comment}
    (h : listed cs = front ++ k :: back) :
    ∃ d e, k.declaration = some d ∧ (ofComments cs)[front.length]? = some e ∧
      Numbered front k d e := by
  have hlisted : ∀ j ∈ front ++ k :: back, IsListed j := by
    intro j hj
    rw [← h] at hj
    exact of_decide_eq_true (List.mem_filter.mp hj).2
  obtain ⟨d, hd, hk⟩ := documented?_of_isListed (hlisted k (by simp))
  have hfront : (front.filterMap documented?).length = front.length := by
    have hall : (front.filter fun j => IsListed j) = front :=
      List.filter_eq_self.mpr fun j hj => decide_eq_true (hlisted j (List.mem_append_left _ hj))
    rw [← List.length_map Prod.fst, map_fst_documented, hall]
  have hdocumented : (front ++ k :: back).filterMap documented? =
      front.filterMap documented? ++ (k, d) :: back.filterMap documented? := by
    rw [List.filterMap_append, List.filterMap_cons_some hk]
  have hplace : ((front ++ k :: back).filterMap documented?)[front.length]? = some (k, d) := by
    rw [hdocumented, List.getElem?_append_right (Nat.le_of_eq hfront), hfront, Nat.sub_self,
      List.getElem?_cons_zero]
  have hanchor : (Anchor.assign (signatures (front ++ k :: back)))[front.length]? =
      some (Anchor.numbered (Anchor.base (signatureOf k d))
        (timesBased (Anchor.base (signatureOf k d)) front)) := by
    have hassign := Anchor.getElem?_assign (signatures front) (signatureOf k d) (signatures back)
    rw [signatures, List.length_map, hfront] at hassign
    rw [signatures, hdocumented, List.map_append, List.map_cons, ← count_bases]
    exact hassign
  have hentry := getElem?_ofComments hplace hanchor
  rw [← h, ofComments_listed] at hentry
  exact ⟨d, _, hd, hentry, Anchor.isBase_base _, rfl, rfl, rfl⟩

theorem length_ofComments_eq (cs : List Comment) :
    (ofComments cs).length = (listed cs).length := by
  rw [length_ofComments, listed, ← map_fst_documented, List.length_map]

theorem Numbered.unique {front : List Comment} {k : Comment} {d : Declaration} {e e' : Entry}
    (h : Numbered front k d e) (h' : Numbered front k d e') : e' = e := by
  obtain ⟨signature, anchor, description⟩ := e
  obtain ⟨signature', anchor', description'⟩ := e'
  rw [Entry.mk.injEq]
  exact ⟨h'.signature.trans h.signature.symm, h'.anchor.trans h.anchor.symm,
    h'.description.trans h.description.symm⟩

/-- More comments behind others leave the entries of these as they are. -/
theorem ofComments_prefix (cs ds : List Comment) : ofComments cs <+: ofComments (cs ++ ds) := by
  rw [List.prefix_iff_getElem?]
  intro i hi
  have hlt : i < (listed cs).length := length_ofComments_eq cs ▸ hi
  obtain ⟨front, k, back, hsplit, rfl⟩ : ∃ front k back,
      listed cs = front ++ k :: back ∧ front.length = i := by
    refine ⟨(listed cs).take i, (listed cs)[i], (listed cs).drop (i + 1), ?_, ?_⟩
    · rw [List.cons_getElem_drop_succ, List.take_append_drop]
    · exact List.length_take_of_le (Nat.le_of_lt hlt)
  -- the listed comments in front of the place are the same in both lists
  have hsplit' : listed (cs ++ ds) = front ++ k :: (back ++ listed ds) := by
    calc listed (cs ++ ds) = listed cs ++ listed ds := List.filter_append ..
      _ = front ++ k :: (back ++ listed ds) := by
        rw [hsplit, List.append_assoc, List.cons_append]
  obtain ⟨d, e, hd, he, hnumbered⟩ := exists_numbered hsplit
  obtain ⟨d', e', hd', he', hnumbered'⟩ := exists_numbered hsplit'
  obtain rfl := Option.some.inj (hd'.symm.trans hd)
  obtain rfl := hnumbered.unique hnumbered'
  rw [he', ← he, List.getElem?_eq_getElem hi]

/-! ## Main statement -/

/-- The entries are those of the listed comments in order, and the number of an anchor is that of
the listed comments in front with the same base.  Comments that are not listed may come and go, and
more comments at the end leave the entries as they are. -/
theorem ofComments_numbered (cs : List Comment) :
    (ofComments cs).length = (listed cs).length ∧
    (∀ front k back, listed cs = front ++ k :: back →
      ∃ d e, k.declaration = some d ∧ (ofComments cs)[front.length]? = some e ∧
        Numbered front k d e) ∧
    (∀ cs', listed cs' = listed cs → ofComments cs' = ofComments cs) ∧
    ∀ ds, ofComments cs <+: ofComments (cs ++ ds) := by
  refine ⟨length_ofComments_eq cs, ?_, ?_, ofComments_prefix cs⟩
  · intro front k back h
    exact exists_numbered h
  · intro cs' h
    rw [← ofComments_listed cs', h, ofComments_listed]

end Entry

end Docblock
