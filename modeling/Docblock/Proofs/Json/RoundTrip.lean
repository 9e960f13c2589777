/-
# Docblock.Proofs.Json.RoundTrip — what is written as a value is read back.

A written string holds one step for each of its characters: a character as it is, a short escape, or
the escapes of its UTF-16 units, two of which make one character beyond the first plane.  Behind a
value, an item or a member only space and punctuation stand, so every reader stops where its writer
did.  Main statement: a value without numbers is read back from what is written for it, in every
layout (`read_write`).
-/
import Docblock.Json.Reader
import Docblock.Json.Writer

namespace Docblock

namespace Json

/-! ## Strings -/

theorem hexValue?_hexDigit {n : Nat} (h : n < 16) : Numeral.hexValue? (hexDigit n) = some n := by
  have hall : ∀ n : Fin 16, Numeral.hexValue? (hexDigit n) = some n.val := by decide
  exact hall ⟨n, h⟩

/-- The digits of a unit. -/
def unitDigits (n : Nat) : Text :=
  [hexDigit (n / 4096 % 16), hexDigit (n / 256 % 16), hexDigit (n / 16 % 16), hexDigit (n % 16)]

theorem unitEscape_append (n : Nat) (r : Text) :
    unitEscape n ++ r = '\\' :: 'u' :: (unitDigits n ++ r) := rfl

/-- A unit is read from its four digits when something stands behind them. -/
theorem unit?_digits {n : Nat} (h : n < 0x10000) {r : Text} (hr : r ≠ []) :
    unit? (unitDigits n ++ r) = some (n, r) := by
  have hd : ∀ k, Numeral.hexValue? (hexDigit (k % 16)) = some (k % 16) := fun k =>
    hexValue?_hexDigit (Nat.mod_lt k (by decide))
  have hv : Numeral.ofDigits 16 [n / 4096 % 16, n / 256 % 16, n / 16 % 16, n % 16] = n := by
    simp only [Numeral.ofDigits, List.foldl_cons, List.foldl_nil]
    omega
  have he : r.isEmpty = false := List.isEmpty_eq_false_iff.mpr hr
  simp only [unitDigits, List.cons_append, List.nil_append, unit?, List.mapM_cons, List.mapM_nil,
    hd, bind, Option.bind, pure, hv, he, Bool.false_eq_true, if_false]

/-- A character has the short escape `e`, or is written as if there were none. -/
theorem escapeChar_eq_or {c a e : Char} {t : Text}
    (ht : escapeChar c = if c == a then ['\\', e] else t) (h : shortEscape? e = some a) :
    (∃ e, escapeChar c = ['\\', e] ∧ shortEscape? e = some c) ∨ (c ≠ a ∧ escapeChar c = t) := by
  by_cases hc : c = a
  · exact Or.inl ⟨e, by rw [ht, if_pos (beq_iff_eq.mpr hc)], hc ▸ h⟩
  · exact Or.inr ⟨hc, by rw [ht, if_neg (mt beq_iff_eq.mp hc)]⟩

/-- How a character is written: by a short escape, as it is, by one unit, or by two. -/
theorem escapeChar_cases (c : Char) :
    (∃ e, escapeChar c = ['\\', e] ∧ shortEscape? e = some c) ∨
      (escapeChar c = [c] ∧ c ≠ '\x22' ∧ c ≠ '\\' ∧ 0x20 ≤ c.toNat) ∨
      (escapeChar c = unitEscape c.toNat ∧ c.toNat < 0x10000) ∨
      (escapeChar c = unitEscape (0xD800 + (c.toNat - 0x10000) / 0x400) ++
          unitEscape (0xDC00 + (c.toNat - 0x10000) % 0x400) ∧ 0x10000 ≤ c.toNat) := by
  refine (escapeChar_eq_or (escapeChar.eq_def c) rfl).elim Or.inl fun ⟨hq, h₁⟩ => ?_
  refine (escapeChar_eq_or h₁ rfl).elim Or.inl fun ⟨hb, h₂⟩ => ?_
  refine (escapeChar_eq_or h₂ rfl).elim Or.inl fun ⟨_, h₃⟩ => ?_
  refine (escapeChar_eq_or h₃ rfl).elim Or.inl fun ⟨_, h₄⟩ => ?_
  refine (escapeChar_eq_or h₄ rfl).elim Or.inl fun ⟨_, h₅⟩ => ?_
  refine (escapeChar_eq_or h₅ rfl).elim Or.inl fun ⟨_, h₆⟩ => ?_
  refine (escapeChar_eq_or h₆ rfl).elim Or.inl fun ⟨_, h₇⟩ => Or.inr ?_
  by_cases hprint : 0x20 ≤ c.toNat ∧ c.toNat ≤ 0x7E
  · refine Or.inl ⟨?_, hq, hb, hprint.1⟩
    rw [h₇]
    exact if_pos (by simpa using hprint)
  · have hif : ∀ t u : Text, (if 0x20 ≤ c.toNat && c.toNat ≤ 0x7E then t else u) = u := by
      intro t u
      exact if_neg (by simpa using hprint)
    refine Or.inr ?_
    by_cases hplane : c.toNat < 0x10000
    · exact Or.inl ⟨by rw [h₇, hif, if_pos hplane], hplane⟩
    · exact Or.inr ⟨by rw [h₇, hif, if_neg hplane], Nat.le_of_not_lt hplane⟩

section

variable (start fuel p : Nat) (acc : Text)

theorem readString_short {e c : Char} (h : shortEscape? e = some c) (r : Text) :
    readString start (fuel + 1) p acc ('\\' :: e :: r) =
      readString start fuel (p + 2) (c :: acc) r := by
  have hu : e ≠ 'u' := by
    rintro rfl
    exact absurd h (by simp [shortEscape?])
  rw [readString, h]
  exact hu

/-- A character that stands for itself. -/
theorem readString_self {c : Char} (hq : c ≠ '\x22') (hb : c ≠ '\\') (hc : 0x20 ≤ c.toNat)
    (r : Text) :
    readString start (fuel + 1) p acc (c :: r) = readString start fuel (p + 1) (c :: acc) r := by
  rw [readString, if_neg (Nat.not_lt.mpr hc)]
  · exact hq
  · exact fun h => absurd h hb
  · exact fun _ h => absurd h hb
  · exact fun _ _ h => absurd h hb

/-- A unit that is no half of a pair is a character. -/
theorem readString_unit {u : Nat} (hu : u < 0xD800 ∨ 0xDFFF < u ∧ u < 0x10000) {r : Text}
    (hr : r ≠ []) :
    readString start (fuel + 1) p acc (unitEscape u ++ r) =
      readString start fuel (p + 6) (Char.ofNat u :: acc) r := by
  have hunit := unit?_digits (n := u) (by omega) hr
  have hhigh : (decide (0xD800 ≤ u) && decide (u ≤ 0xDBFF)) = false := by
    rw [← Bool.not_eq_true, Bool.and_eq_true, decide_eq_true_eq, decide_eq_true_eq]
    omega
  have hlow : (decide (0xDC00 ≤ u) && decide (u ≤ 0xDFFF)) = false := by
    rw [← Bool.not_eq_true, Bool.and_eq_true, decide_eq_true_eq, decide_eq_true_eq]
    omega
  rw [unitEscape_append, readString, hunit]
  simp only [hhigh, hlow, Bool.false_eq_true, if_false]

/-- Two halves of a pair are one character. -/
theorem readString_pair {u w n : Nat} (hu : 0xD800 ≤ u ∧ u ≤ 0xDBFF)
    (hw : 0xDC00 ≤ w ∧ w ≤ 0xDFFF) (hn : 0x10000 + (u - 0xD800) * 0x400 + (w - 0xDC00) = n)
    {r : Text} (hr : r ≠ []) :
    readString start (fuel + 1) p acc (unitEscape u ++ (unitEscape w ++ r)) =
      readString start fuel (p + 12) (Char.ofNat n :: acc) r := by
  have hlow : lowHalf? (unitEscape w ++ r) = some (w, r) := by
    have hunit := unit?_digits (n := w) (by omega) hr
    rw [unitEscape_append, lowHalf?, hunit]
    simp only [hw, decide_true, Bool.and_true, if_true]
  have hunit := unit?_digits (n := u) (by omega) (r := unitEscape w ++ r) (List.cons_ne_nil _ _)
  rw [unitEscape_append u, readString, hunit]
  simp only [hu, hlow, hn, decide_true, Bool.and_true, if_true]

end

/-- A character is read in one step from what is written for it. -/
theorem exists_readString_escapeChar (c : Char) :
    ∃ n, ∀ (start fuel p : Nat) (acc r : Text), r ≠ [] →
      readString start (fuel + 1) p acc (escapeChar c ++ r) =
        readString start fuel (p + n) (c :: acc) r := by
  have hvalid : c.toNat < 0xD800 ∨ 0xDFFF < c.toNat ∧ c.toNat < 0x110000 := c.valid
  rcases escapeChar_cases c with ⟨e, he, hs⟩ | ⟨he, hq, hb, hc⟩ | ⟨he, hc⟩ | ⟨he, hc⟩
  · exact ⟨2, fun start fuel p acc r _ => he ▸ readString_short start fuel p acc hs r⟩
  · exact ⟨1, fun start fuel p acc r _ => he ▸ readString_self start fuel p acc hq hb hc r⟩
  · refine ⟨6, fun start fuel p acc r hr => ?_⟩
    have := readString_unit start fuel p acc (u := c.toNat) (by omega) hr
    rwa [Char.ofNat_toNat, ← he] at this
  · refine ⟨12, fun start fuel p acc r hr => ?_⟩
    have hpair := readString_pair start fuel p acc (u := 0xD800 + (c.toNat - 0x10000) / 0x400)
      (w := 0xDC00 + (c.toNat - 0x10000) % 0x400) (n := c.toNat) (by omega) (by omega) (by omega) hr
    rwa [Char.ofNat_toNat, ← List.append_assoc, ← he] at hpair

theorem escapeChar_ne_nil (c : Char) : escapeChar c ≠ [] := by
  rcases escapeChar_cases c with ⟨e, he, -⟩ | ⟨he, -⟩ | ⟨he, -⟩ | ⟨he, -⟩
  all_goals
    rw [he]
    exact List.cons_ne_nil _ _

theorem length_le_length_escaped (s : Text) : s.length ≤ (s.flatMap escapeChar).length := by
  induction s with
  | nil => exact Nat.le_refl 0
  | cons c s ih =>
    have := List.length_pos_iff.mpr (escapeChar_ne_nil c)
    rw [List.flatMap_cons, List.length_append, List.length_cons]
    omega

/-- A string is read up to its closing quote. -/
theorem exists_readString (s : Text) :
    ∃ n, ∀ (start fuel p : Nat) (acc r : Text), s.length < fuel →
      readString start fuel p acc (s.flatMap escapeChar ++ '\x22' :: r) =
        .ok (acc.reverse ++ s, p + n, r) := by
  induction s with
  | nil =>
    refine ⟨1, fun start fuel p acc r hf => ?_⟩
    obtain ⟨fuel, rfl⟩ := Nat.exists_eq_add_of_lt hf
    simp [readString]
  | cons c s ih =>
    -- one step reads what is written for `c`, and the rest is read with `c` put by
    obtain ⟨n, hn⟩ := ih
    obtain ⟨k, hk⟩ := exists_readString_escapeChar c
    refine ⟨k + n, fun start fuel p acc r hf => ?_⟩
    obtain ⟨fuel, rfl⟩ : ∃ f, fuel = f + 1 := ⟨fuel - 1, by omega⟩
    rw [List.flatMap_cons, List.append_assoc, hk _ _ _ _ _ (by simp),
      hn _ _ _ _ _ (by simpa using hf)]
    simp [Nat.add_assoc]

/-! ## Space -/

/-- Whether only space stands in a text. -/
def Spaces (w : Text) : Prop := ∀ c ∈ w, isSpace c = true

theorem skipSpace_append {w : Text} (hw : Spaces w) {c : Char} (hc : isSpace c = false) (p : Nat)
    (t : Text) : skipSpace p (w ++ c :: t) = (p + w.length, c :: t) := by
  have hn : ¬ isSpace c = true := by simp [hc]
  rw [skipSpace, List.takeWhile_append_of_pos hw, List.dropWhile_append_of_pos hw,
    List.takeWhile_cons_of_neg hn, List.dropWhile_cons_of_neg hn, List.append_nil]

theorem skipSpace_cons {c : Char} (hc : isSpace c = false) (p : Nat) (t : Text) :
    skipSpace p (c :: t) = (p, c :: t) := by
  have hn : ¬ isSpace c = true := by simp [hc]
  rw [skipSpace, List.takeWhile_cons_of_neg hn, List.dropWhile_cons_of_neg hn]
  rfl

theorem spaces_fill (n : Nat) : Spaces (Text.fill n ' ') := by
  intro c hc
  rw [(List.mem_replicate.mp hc).2]
  rfl

theorem spaces_lineBreak (l : Layout) (depth : Nat) : Spaces (l.lineBreak depth) := by
  cases l with
  | oneLine => exact fun c hc => absurd hc List.not_mem_nil
  | spread w =>
    intro c hc
    rcases List.mem_cons.mp hc with rfl | hc
    · rfl
    · exact spaces_fill _ c hc

theorem exists_between (l : Layout) (depth : Nat) :
    ∃ w, l.between depth = ',' :: w ∧ Spaces w := by
  cases l with
  | oneLine => exact ⟨[' '], rfl, fun c hc => List.mem_singleton.mp hc ▸ rfl⟩
  | spread w =>
    refine ⟨'\n' :: Text.fill (w * depth) ' ', rfl, fun c hc => ?_⟩
    rcases List.mem_cons.mp hc with rfl | hc
    · rfl
    · exact spaces_fill _ c hc

/-! ## Values without numbers -/

/-- A value in which no number stands. -/
inductive NumberFree : Json → Prop
  | null : NumberFree .null
  | bool (b : Bool) : NumberFree (.bool b)
  | string (s : Text) : NumberFree (.string s)
  | array {vs : List Json} : (∀ v ∈ vs, NumberFree v) → NumberFree (.array vs)
  | object {ms : List (Text × Json)} : (∀ m ∈ ms, NumberFree m.2) → NumberFree (.object ms)

/-- A value is told from space and from the end of an array by its first character. -/
theorem NumberFree.exists_writeAt_eq_cons {v : Json} (h : NumberFree v) (l : Layout) (depth : Nat) :
    ∃ c t, writeAt l depth v = c :: t ∧ isSpace c = false ∧ c ≠ ']' := by
  cases h with
  | null => exact ⟨_, _, rfl, by decide⟩
  | bool b => cases b <;> exact ⟨_, _, rfl, by decide⟩
  | string s => exact ⟨_, _, rfl, by decide⟩
  | @array vs _ => cases vs <;> exact ⟨_, _, rfl, by decide⟩
  | @object ms _ => cases ms <;> exact ⟨_, _, rfl, by decide⟩

/-- What is written for a value is read back, whatever follows. -/
def ReadBack (l : Layout) (v : Json) : Prop :=
  ∀ (depth fuel p : Nat) (r : Text), (writeAt l depth v).length ≤ fuel →
    ∃ p', readValue fuel p (writeAt l depth v ++ r) = .ok (v, p', r)

theorem readItems_writeItems {l : Layout} {v : Json} {vs : List Json}
    (h : ∀ u ∈ v :: vs, NumberFree u ∧ ReadBack l u) {w : Text} (hw : Spaces w)
    (depth fuel p : Nat) (acc : List Json) (r : Text)
    (hf : (writeAt l depth v).length + (writeItems l depth vs).length < fuel) :
    ∃ p', readItems fuel p
        (writeAt l depth v ++ (writeItems l depth vs ++ (w ++ ']' :: r))) acc =
      .ok (.array (acc.reverse ++ v :: vs), p', r) := by
  induction vs generalizing v fuel p acc with
  | nil =>
    obtain ⟨fuel, rfl⟩ : ∃ f, fuel = f + 1 := ⟨fuel - 1, by omega⟩
    obtain ⟨p', hv⟩ := (h v List.mem_cons_self).2 depth fuel p (w ++ ']' :: r) (by omega)
    rw [writeItems, List.nil_append, readItems, hv]
    simp only [skipSpace_append hw (c := ']') rfl]
    exact ⟨p' + w.length + 1, by simp⟩
  | cons u us ih =>
    obtain ⟨fuel, rfl⟩ : ∃ f, fuel = f + 1 := ⟨fuel - 1, by omega⟩
    obtain ⟨b, hb, hbs⟩ := exists_between l depth
    obtain ⟨c, t, hc, hcs, -⟩ :=
      (h u (List.mem_cons_of_mem v List.mem_cons_self)).1.exists_writeAt_eq_cons l depth
    have hlen : (writeItems l depth (u :: us)).length =
        b.length + 1 + (writeAt l depth u).length + (writeItems l depth us).length := by
      rw [writeItems, hb]
      simp only [List.length_append, List.length_cons]
    have hrest : writeItems l depth (u :: us) ++ (w ++ ']' :: r) =
        ',' :: (b ++ (writeAt l depth u ++ (writeItems l depth us ++ (w ++ ']' :: r)))) := by
      rw [writeItems, hb]
      simp
    obtain ⟨p', hv⟩ := (h v List.mem_cons_self).2 depth fuel p
      (writeItems l depth (u :: us) ++ (w ++ ']' :: r)) (by omega)
    rw [readItems, hv, hrest]
    simp only [skipSpace_cons (c := ',') rfl]
    have hskip : skipSpace (p' + 1)
        (b ++ (writeAt l depth u ++ (writeItems l depth us ++ (w ++ ']' :: r)))) =
          (p' + 1 + b.length,
            writeAt l depth u ++ (writeItems l depth us ++ (w ++ ']' :: r))) := by
      rw [hc, List.cons_append, skipSpace_append hbs hcs]
    rw [hskip]
    obtain ⟨p'', hrec⟩ := ih (fun x hx => h x (List.mem_cons_of_mem v hx)) fuel
      (p' + 1 + b.length) (v :: acc) (by omega)
    exact ⟨p'', by rw [hrec]; simp⟩

/-- A name and the value behind it are read together. -/
theorem exists_readMembers_quote {l : Layout} {k : Text} {v : Json} (h : NumberFree v)
    (hv : ReadBack l v) (depth fuel p : Nat) (acc : List (Text × Json)) (r : Text)
    (hf : (writeAt l depth v).length ≤ fuel) :
    ∃ p',
      (∀ q r', skipSpace p' r = (q, '\x7d' :: r') →
        readMembers (fuel + 1) p (quote k ++ ':' :: ' ' :: (writeAt l depth v ++ r)) acc =
          .ok (.object (acc.reverse ++ [(k, v)]), q + 1, r')) ∧
      ∀ q r', skipSpace p' r = (q, ',' :: r') →
        readMembers (fuel + 1) p (quote k ++ ':' :: ' ' :: (writeAt l depth v ++ r)) acc =
          readMembers fuel (skipSpace (q + 1) r').1 (skipSpace (q + 1) r').2 ((k, v) :: acc) := by
  obtain ⟨n, hn⟩ := exists_readString k
  obtain ⟨c, t, hc, hcs, -⟩ := h.exists_writeAt_eq_cons l depth
  have hquote : quote k ++ ':' :: ' ' :: (writeAt l depth v ++ r) =
      '\x22' :: (k.flatMap escapeChar ++ '\x22' :: ':' :: ' ' :: (writeAt l depth v ++ r)) := by
    simp [quote]
  have hlen : k.length < (k.flatMap escapeChar ++
      '\x22' :: ':' :: ' ' :: (writeAt l depth v ++ r)).length + 1 := by
    have := length_le_length_escaped k
    rw [List.length_append]
    omega
  have hskip : ∀ p, skipSpace p (' ' :: (writeAt l depth v ++ r)) =
      (p + 1, writeAt l depth v ++ r) := by
    intro p
    rw [hc]
    exact skipSpace_append (w := [' ']) (spaces_fill 1) hcs p (t ++ r)
  obtain ⟨p', hread⟩ := hv depth fuel (p + 1 + n + 1 + 1) r hf
  refine ⟨p', fun q r' hq => ?_, fun q r' hq => ?_⟩
  all_goals
    rw [hquote, readMembers, hn p _ (p + 1) [] _ hlen]
    simp only [List.reverse_nil, List.nil_append, skipSpace_cons (c := ':') rfl, hskip, hread, hq,
      List.reverse_cons]

theorem readMembers_writeMembers {l : Layout} {k : Text} {v : Json} {ms : List (Text × Json)}
    (h : ∀ m ∈ (k, v) :: ms, NumberFree m.2 ∧ ReadBack l m.2) {w : Text} (hw : Spaces w)
    (depth fuel p : Nat) (acc : List (Text × Json)) (r : Text)
    (hf : (writeAt l depth v).length + (writeMembers l depth ms).length < fuel) :
    ∃ p', readMembers fuel p
        (quote k ++ ':' :: ' ' :: (writeAt l depth v ++
          (writeMembers l depth ms ++ (w ++ '\x7d' :: r)))) acc =
      .ok (.object (acc.reverse ++ (k, v) :: ms), p', r) := by
  induction ms generalizing k v fuel p acc with
  | nil =>
    obtain ⟨fuel, rfl⟩ : ∃ f, fuel = f + 1 := ⟨fuel - 1, by omega⟩
    obtain ⟨hfree, hback⟩ := h (k, v) List.mem_cons_self
    obtain ⟨p', hend, -⟩ := exists_readMembers_quote (k := k) (v := v) hfree hback depth fuel p acc
      (w ++ '\x7d' :: r) (by omega)
    exact ⟨_, hend _ _ (skipSpace_append hw rfl p' r)⟩
  | cons m ms ih =>
    obtain ⟨k', u⟩ := m
    obtain ⟨fuel, rfl⟩ : ∃ f, fuel = f + 1 := ⟨fuel - 1, by omega⟩
    obtain ⟨hfree, hback⟩ := h (k, v) List.mem_cons_self
    obtain ⟨b, hb, hbs⟩ := exists_between l depth
    have hlen : (writeAt l depth u).length + (writeMembers l depth ms).length <
        (writeMembers l depth ((k', u) :: ms)).length := by
      rw [writeMembers, hb]
      simp only [List.length_append, List.length_cons]
      omega
    have hrest : writeMembers l depth ((k', u) :: ms) ++ (w ++ '\x7d' :: r) =
        ',' :: (b ++ (quote k' ++ ':' :: ' ' :: (writeAt l depth u ++
          (writeMembers l depth ms ++ (w ++ '\x7d' :: r))))) := by
      rw [writeMembers, hb]
      simp
    obtain ⟨p', -, hmore⟩ := exists_readMembers_quote (k := k) (v := v) hfree hback depth fuel p acc
      (writeMembers l depth ((k', u) :: ms) ++ (w ++ '\x7d' :: r)) (by omega)
    have hskip : ∀ t, skipSpace (p' + 1) (b ++ (quote k' ++ t)) =
        (p' + 1 + b.length, quote k' ++ t) := fun t => skipSpace_append hbs rfl (p' + 1) _
    obtain ⟨p'', hrec⟩ := ih (fun x hx => h x (List.mem_cons_of_mem _ hx)) fuel
      (p' + 1 + b.length) ((k, v) :: acc) (by omega)
    refine ⟨p'', ?_⟩
    rw [hrest] at hmore ⊢
    rw [hmore p' _ (skipSpace_cons rfl p' _), hskip, hrec]
    simp

/-! ## Whole values -/

theorem readBack_array {l : Layout} {vs : List Json} (h : ∀ v ∈ vs, NumberFree v ∧ ReadBack l v) :
    ReadBack l (.array vs) := by
  intro depth fuel p r hf
  cases vs with
  | nil =>
    obtain ⟨fuel, rfl⟩ : ∃ f, fuel = f + 1 := ⟨fuel - 1, by simp [writeAt] at hf; omega⟩
    exact ⟨_, rfl⟩
  | cons v vs =>
    obtain ⟨c, t, hc, hcs, hne⟩ :=
      (h v List.mem_cons_self).1.exists_writeAt_eq_cons l (depth + 1)
    have hwritten : writeAt l depth (.array (v :: vs)) ++ r =
        '[' :: (l.lineBreak (depth + 1) ++ (writeAt l (depth + 1) v ++
          (writeItems l (depth + 1) vs ++ (l.lineBreak depth ++ ']' :: r)))) := by
      rw [writeAt]
      simp
    have hlen : (writeAt l (depth + 1) v).length + (writeItems l (depth + 1) vs).length + 2 ≤
        (writeAt l depth (.array (v :: vs))).length := by
      rw [writeAt]
      simp only [List.length_append, List.length_cons, List.length_nil]
      omega
    obtain ⟨fuel, rfl⟩ : ∃ f, fuel = f + 1 := ⟨fuel - 1, by omega⟩
    obtain ⟨p', hitems⟩ := readItems_writeItems h (spaces_lineBreak l depth) (depth + 1) fuel
      (p + 1 + (l.lineBreak (depth + 1)).length) [] r (by omega)
    refine ⟨p', ?_⟩
    rw [hc, List.cons_append] at hitems hwritten
    rw [hwritten, readValue]
    simp only [skipSpace_append (spaces_lineBreak l (depth + 1)) hcs]
    -- an empty array would end here, but no value begins with its end
    split
    · next hend => exact absurd (List.cons.inj hend).1 hne
    · exact hitems

theorem readBack_object {l : Layout} {ms : List (Text × Json)}
    (h : ∀ m ∈ ms, NumberFree m.2 ∧ ReadBack l m.2) : ReadBack l (.object ms) := by
  intro depth fuel p r hf
  cases ms with
  | nil =>
    obtain ⟨fuel, rfl⟩ : ∃ f, fuel = f + 1 := ⟨fuel - 1, by simp [writeAt] at hf; omega⟩
    exact ⟨_, rfl⟩
  | cons m ms =>
    obtain ⟨k, v⟩ := m
    have hwritten : writeAt l depth (.object ((k, v) :: ms)) ++ r =
        '\x7b' :: (l.lineBreak (depth + 1) ++ (quote k ++ ':' :: ' ' :: (writeAt l (depth + 1) v ++
          (writeMembers l (depth + 1) ms ++ (l.lineBreak depth ++ '\x7d' :: r))))) := by
      rw [writeAt]
      simp
    have hlen : (writeAt l (depth + 1) v).length + (writeMembers l (depth + 1) ms).length + 2 ≤
        (writeAt l depth (.object ((k, v) :: ms))).length := by
      rw [writeAt]
      simp only [List.length_append, List.length_cons, List.length_nil]
      omega
    obtain ⟨fuel, rfl⟩ : ∃ f, fuel = f + 1 := ⟨fuel - 1, by omega⟩
    obtain ⟨p', hmembers⟩ := readMembers_writeMembers h (spaces_lineBreak l depth) (depth + 1) fuel
      (p + 1 + (l.lineBreak (depth + 1)).length) [] r (by omega)
    refine ⟨p', ?_⟩
    have hskip : ∀ t, skipSpace (p + 1) (l.lineBreak (depth + 1) ++ (quote k ++ t)) =
        (p + 1 + (l.lineBreak (depth + 1)).length, quote k ++ t) := fun t =>
      skipSpace_append (spaces_lineBreak l (depth + 1)) rfl (p + 1) _
    rw [hwritten, readValue]
    simp only [hskip]
    exact hmembers

theorem NumberFree.readBack {v : Json} (h : NumberFree v) (l : Layout) : ReadBack l v := by
  induction h with
  | null =>
    intro depth fuel p r hf
    obtain ⟨fuel, rfl⟩ : ∃ f, fuel = f + 1 := ⟨fuel - 1, by simp [writeAt] at hf; omega⟩
    exact ⟨_, rfl⟩
  | bool b =>
    intro depth fuel p r hf
    have hlen : 0 < (writeAt l depth (.bool b)).length := by cases b <;> exact Nat.zero_lt_succ _
    obtain ⟨fuel, rfl⟩ : ∃ f, fuel = f + 1 := ⟨fuel - 1, by omega⟩
    cases b <;> exact ⟨_, rfl⟩
  | string s =>
    intro depth fuel p r hf
    have hwritten : writeAt l depth (.string s) ++ r =
        '\x22' :: (s.flatMap escapeChar ++ '\x22' :: r) := by
      rw [writeAt, quote]
      simp
    have hlen := length_le_length_escaped s
    rw [writeAt, quote, List.length_append, List.length_cons] at hf
    obtain ⟨fuel, rfl⟩ : ∃ f, fuel = f + 1 := ⟨fuel - 1, by omega⟩
    obtain ⟨n, hn⟩ := exists_readString s
    rw [hwritten, readValue, hn p _ _ _ _ (by omega)]
    exact ⟨_, rfl⟩
  | array hf ih => exact readBack_array fun v hv => ⟨hf v hv, ih v hv⟩
  | object hf ih => exact readBack_object fun m hm => ⟨hf m hm, ih m hm⟩

/-- A value without numbers is read back from what is written for it, also with space behind. -/
theorem read_write_append {v : Json} (h : NumberFree v) (l : Layout) {w : Text} (hw : Spaces w) :
    read (write l v ++ w) = .ok v := by
  obtain ⟨c, t, hc, hcs, -⟩ := h.exists_writeAt_eq_cons l 0
  obtain ⟨p', hv⟩ := h.readBack l 0 ((write l v ++ w).length + 1) 0 w (by
    rw [write, List.length_append]
    omega)
  have hskip : skipSpace 0 (write l v ++ w) = (0, write l v ++ w) := by
    rw [write, hc]
    exact skipSpace_cons hcs 0 _
  have hend : (skipSpace p' w).2 = [] := by
    have hall : (w ++ []).dropWhile isSpace = [] := List.dropWhile_append_of_pos hw
    rwa [List.append_nil] at hall
  rw [read, hskip]
  rw [← write] at hv
  simp only [hv, hend]
  rfl

/-- A value without numbers is read back from the line that is written for it. -/
theorem read_write {v : Json} (h : NumberFree v) (l : Layout) :
    read (write l v ++ ['\n']) = .ok v :=
  read_write_append h l fun _ hc => List.mem_singleton.mp hc ▸ rfl

/-! ## Beginnings -/

/-- A text with a value in it does not begin with a mark for the order of octets. -/
theorem after?_mark_of_read {s : Text} {v : Json} (h : read s = .ok v) :
    Text.after? ['\ufeff'] s = none := by
  cases s with
  | nil => rfl
  | cons c s =>
    by_cases hc : c = '\ufeff'
    · -- no value begins with the mark: it would have to be that of a number
      have hbad : read ('\ufeff' :: s) = .error ⟨.valueExpected, 0⟩ := by
        rw [read, skipSpace_cons rfl]
        rfl
      rw [hc, hbad] at h
      exact absurd h (by simp)
    · have hne : ¬ (('\ufeff' : Char) == c) = true := fun he => hc (beq_iff_eq.mp he).symm
      show (if ('\ufeff' : Char) == c then some s else none) = none
      exact if_neg hne

end Json

end Docblock
