/-
# Docblock.Proofs.Html.Lenient — texts from which no markup arises.

What the lenient form writes for a character depends on the character and, for an ampersand, on what
stands behind it: `Writes` lists the cases.  An entity that is written anew holds no angle bracket
and no bare ampersand, and the name of an entity that was there before is not touched, so an escaped
text has nothing left to escape (`Escaped`, `escapeLoose_eq_self_iff`).  Where the text had no
entity of its own, all entities found afterwards stand for a character, and reading them back gives
the text again.  Main statement: the lenient form is safe, does its work once, and loses nothing
(`escapeLoose_faithful`).
-/
import Docblock.Proofs.Html.Escape
import Docblock.Proofs.Text.LineEnd

namespace Docblock.Html

/-! ## Entities -/

/-- A text begins with what stands behind the ampersand of an entity: a name of word characters, at
least one, and a semicolon. -/
def NamesEntity (s : Text) : Prop :=
  ∃ name r, name ≠ [] ∧ (∀ c ∈ name, isWord c = true) ∧ s = name ++ ';' :: r

theorem entityBody_iff {s : Text} : entityBody s = true ↔ NamesEntity s := by
  unfold entityBody
  rw [Bool.and_eq_true, Bool.not_eq_true', List.isEmpty_eq_false_iff, beq_iff_eq]
  constructor
  · intro h
    obtain ⟨hname, hsemicolon⟩ := h
    obtain ⟨r, hr⟩ := List.head?_eq_some_iff.mp hsemicolon
    refine ⟨s.takeWhile isWord, r, hname, fun c hc => List.mem_takeWhile_imp hc, ?_⟩
    rw [← hr, List.takeWhile_append_dropWhile]
  · rintro ⟨name, r, hname, hword, rfl⟩
    have hsemicolon : isWord ';' = false := rfl
    have htake : name.takeWhile isWord = name := List.takeWhile_eq_self_iff.mpr hword
    have hdrop : name.dropWhile isWord = [] := List.dropWhile_eq_nil_iff.mpr hword
    rw [Text.takeWhile_append_cons hsemicolon, Text.dropWhile_append_cons hsemicolon, htake, hdrop]
    exact ⟨hname, rfl⟩

instance : DecidablePred NamesEntity := fun _ => decidable_of_iff _ entityBody_iff

/-- A character that is never escaped. -/
def IsPlain (c : Char) : Prop := c ≠ '&' ∧ c ≠ '<' ∧ c ≠ '>'

theorem isPlain_of_isWord {c : Char} (h : isWord c = true) : IsPlain c := by
  refine ⟨?_, ?_, ?_⟩
  all_goals
    rintro rfl
    exact absurd h (by decide)

theorem isPlain_semicolon : IsPlain ';' := ⟨by decide, by decide, by decide⟩

/-! ## What is written for a character -/

/-- What the lenient form writes for a character with `r` behind it. -/
inductive Writes : Char → Text → Text → Prop where
  | less (r : Text) : Writes '<' r "&lt;".toList
  | greater (r : Text) : Writes '>' r "&gt;".toList
  | bare {r : Text} (h : ¬ NamesEntity r) : Writes '&' r "&amp;".toList
  | entity {r : Text} (h : NamesEntity r) : Writes '&' r ['&']
  | plain {c : Char} (r : Text) (h : IsPlain c) : Writes c r [c]

/-- `Escapes s e` says that `e` is `s` with every character written so, one behind the other. -/
inductive Escapes : Text → Text → Prop where
  | nil : Escapes [] []
  | cons {c : Char} {r here e : Text} (h : Writes c r here) (hr : Escapes r e) :
    Escapes (c :: r) (here ++ e)

theorem exists_writes (c : Char) (r : Text) :
    ∃ here, escapeLoose (c :: r) = here ++ escapeLoose r ∧ Writes c r here := by
  rw [escapeLoose]
  refine ⟨_, rfl, ?_⟩
  by_cases hc : c = '&'
  · subst hc
    by_cases hr : NamesEntity r
    · rw [entityBody_iff.mpr hr]
      exact .entity hr
    · rw [Bool.eq_false_iff.mpr (entityBody_iff.not.mpr hr)]
      exact .bare hr
  · rw [beq_eq_false_iff_ne.mpr hc, Bool.false_and, if_neg Bool.false_ne_true]
    by_cases hless : c = '<'
    · subst hless
      exact .less r
    · by_cases hgreater : c = '>'
      · subst hgreater
        exact .greater r
      · have hplain : Writes c r [c] := .plain r ⟨hc, hless, hgreater⟩
        -- a double quote stays in the lenient form, so the strict form is not asked for it
        split
        · exact hplain
        · next hquote =>
          simp only [escapeChar, beq_iff_eq, hc, hless, hgreater, if_false]
          rw [if_neg (by simpa using hquote)]
          exact hplain

theorem escapes_escapeLoose (s : Text) : Escapes s (escapeLoose s) := by
  induction s with
  | nil => exact .nil
  | cons c s ih =>
    obtain ⟨here, heq, hwrites⟩ := exists_writes c s
    rw [heq]
    exact .cons hwrites ih

/-- Each character is written in one way only. -/
theorem Writes.unique {c : Char} {r a b : Text} (h : Writes c r a) (h' : Writes c r b) : a = b := by
  cases h with
  | less =>
    cases h' with
    | less => rfl
    | plain _ hc => exact absurd rfl hc.2.1
  | greater =>
    cases h' with
    | greater => rfl
    | plain _ hc => exact absurd rfl hc.2.2
  | bare hr =>
    cases h' with
    | bare => rfl
    | entity hr' => exact absurd hr' hr
    | plain _ hc => exact absurd rfl hc.1
  | entity hr =>
    cases h' with
    | bare hr' => exact absurd hr hr'
    | entity => rfl
    | plain _ hc => exact absurd rfl hc.1
  | plain _ hc =>
    cases h' with
    | less => exact absurd rfl hc.2.1
    | greater => exact absurd rfl hc.2.2
    | bare => exact absurd rfl hc.1
    | entity => exact absurd rfl hc.1
    | plain => rfl

/-- The lenient form is the only text that is written so. -/
theorem escapes_iff {s e : Text} : Escapes s e ↔ e = escapeLoose s := by
  constructor
  · intro h
    induction h with
    | nil => rfl
    | @cons c r here e h hr ih =>
      obtain ⟨here', heq, hwrites⟩ := exists_writes c r
      rw [heq, ih, h.unique hwrites]
  · rintro rfl
    exact escapes_escapeLoose s

theorem escapeLoose_append_of_plain {u : Text} (h : ∀ c ∈ u, IsPlain c) (r : Text) :
    escapeLoose (u ++ r) = u ++ escapeLoose r := by
  induction u with
  | nil => rfl
  | cons c u ih =>
    obtain ⟨here, heq, hwrites⟩ := exists_writes c (u ++ r)
    have hc := h c List.mem_cons_self
    rw [List.cons_append, heq, ih fun x hx => h x (List.mem_cons_of_mem c hx)]
    cases hwrites with
    | less => exact absurd rfl hc.2.1
    | greater => exact absurd rfl hc.2.2
    | bare => exact absurd rfl hc.1
    | entity => rfl
    | plain => rfl

/-- The name of an entity is not touched. -/
theorem NamesEntity.escapeLoose {r : Text} (h : NamesEntity r) :
    NamesEntity (Html.escapeLoose r) := by
  obtain ⟨name, r, hname, hword, rfl⟩ := h
  refine ⟨name, Html.escapeLoose r, hname, hword, ?_⟩
  have hplain : ∀ c ∈ name ++ [';'], IsPlain c := by
    intro c hc
    rcases List.mem_append.mp hc with hc | hc
    · exact isPlain_of_isWord (hword c hc)
    · rw [List.mem_singleton.mp hc]
      exact isPlain_semicolon
  have := escapeLoose_append_of_plain hplain r
  simpa using this

/-! ## Escaped texts -/

/-- A text without angle brackets in which every ampersand begins an entity. -/
structure Escaped (e : Text) : Prop where
  less : '<' ∉ e
  greater : '>' ∉ e
  ampersand : ∀ r, '&' :: r <:+ e → NamesEntity r

namespace Escaped

variable {e : Text}

theorem nil : Escaped [] where
  less := List.not_mem_nil
  greater := List.not_mem_nil
  ampersand r h := absurd (List.suffix_nil.mp h) (List.cons_ne_nil '&' r)

theorem tail {c : Char} (h : Escaped (c :: e)) : Escaped e where
  less hm := h.less (List.mem_cons_of_mem c hm)
  greater hm := h.greater (List.mem_cons_of_mem c hm)
  ampersand r hr := h.ampersand r (hr.trans (List.suffix_cons c e))

theorem cons {c : Char} (hless : c ≠ '<') (hgreater : c ≠ '>') (hc : c = '&' → NamesEntity e)
    (h : Escaped e) : Escaped (c :: e) where
  less hm := (List.mem_cons.mp hm).elim (fun heq => hless heq.symm) h.less
  greater hm := (List.mem_cons.mp hm).elim (fun heq => hgreater heq.symm) h.greater
  ampersand r hr := by
    rcases List.suffix_cons_iff.mp hr with heq | hr
    · obtain ⟨rfl, rfl⟩ := List.cons.inj heq
      exact hc rfl
    · exact h.ampersand r hr

theorem append_of_plain {u : Text} (hu : ∀ c ∈ u, IsPlain c) (h : Escaped e) :
    Escaped (u ++ e) := by
  induction u with
  | nil => exact h
  | cons c u ih =>
    obtain ⟨hampersand, hless, hgreater⟩ := hu c List.mem_cons_self
    apply cons hless hgreater
    · intro hc
      exact absurd hc hampersand
    · exact ih fun x hx => hu x (List.mem_cons_of_mem c hx)

/-- An entity in front of an escaped text. -/
theorem entity (name : Text) (hname : name ≠ []) (hword : name.all isWord = true)
    (h : Escaped e) : Escaped ('&' :: (name ++ ';' :: e)) := by
  have hword := List.all_eq_true.mp hword
  apply cons (by decide) (by decide)
  · intro _
    exact ⟨name, e, hname, hword, rfl⟩
  · apply append_of_plain fun c hc => isPlain_of_isWord (hword c hc)
    exact append_of_plain (u := [';']) (by simpa using isPlain_semicolon) h

/-- An escaped text has nothing left to escape. -/
theorem escapeLoose_eq (h : Escaped e) : escapeLoose e = e := by
  induction e with
  | nil => rfl
  | cons c e ih =>
    obtain ⟨here, heq, hwrites⟩ := exists_writes c e
    rw [heq, ih h.tail]
    cases hwrites with
    | less => exact absurd List.mem_cons_self h.less
    | greater => exact absurd List.mem_cons_self h.greater
    | bare hbare => exact absurd (h.ampersand e List.suffix_rfl) hbare
    | entity => rfl
    | plain => rfl

end Escaped

theorem escaped_escapeLoose (s : Text) : Escaped (escapeLoose s) := by
  induction s with
  | nil => exact .nil
  | cons c s ih =>
    obtain ⟨here, heq, hwrites⟩ := exists_writes c s
    rw [heq]
    cases hwrites with
    | less => exact ih.entity "lt".toList (by decide) (by decide)
    | greater => exact ih.entity "gt".toList (by decide) (by decide)
    | bare => exact ih.entity "amp".toList (by decide) (by decide)
    | entity h => exact ih.cons (by decide) (by decide) fun _ => h.escapeLoose
    | plain _ h => exact ih.cons h.2.1 h.2.2 fun hc => absurd hc h.1

theorem escapeLoose_eq_self_iff {s : Text} : escapeLoose s = s ↔ Escaped s :=
  ⟨fun h => h ▸ escaped_escapeLoose s, fun h => h.escapeLoose_eq⟩

/-! ## Reading back -/

/-- Read the three entities that the lenient form writes, from left to right. -/
def unescapeLoose : Text → Text
  | '&' :: 'l' :: 't' :: ';' :: r => '<' :: unescapeLoose r
  | '&' :: 'g' :: 't' :: ';' :: r => '>' :: unescapeLoose r
  | '&' :: 'a' :: 'm' :: 'p' :: ';' :: r => '&' :: unescapeLoose r
  | c :: r => c :: unescapeLoose r
  | [] => []

theorem unescapeLoose_cons {c : Char} (h : c ≠ '&') (r : Text) :
    unescapeLoose (c :: r) = c :: unescapeLoose r := by
  conv_lhs => unfold unescapeLoose
  split <;> simp_all

/-- A text without entities is found again. -/
theorem unescapeLoose_escapeLoose {s : Text} (h : ∀ r, '&' :: r <:+ s → ¬ NamesEntity r) :
    unescapeLoose (escapeLoose s) = s := by
  induction s with
  | nil => rfl
  | cons c s ih =>
    have ih := ih fun r hr => h r (hr.trans (List.suffix_cons c s))
    obtain ⟨here, heq, hwrites⟩ := exists_writes c s
    rw [heq]
    cases hwrites with
    | less =>
      show '<' :: unescapeLoose (escapeLoose s) = _
      rw [ih]
    | greater =>
      show '>' :: unescapeLoose (escapeLoose s) = _
      rw [ih]
    | bare =>
      show '&' :: unescapeLoose (escapeLoose s) = _
      rw [ih]
    | entity hentity => exact absurd hentity (h s List.suffix_rfl)
    | plain _ hc =>
      show unescapeLoose (c :: escapeLoose s) = _
      rw [unescapeLoose_cons hc.1, ih]

/-! ## Three replacements -/

/-- Escape the ampersands that do not begin an entity. -/
def escapeAmpersands : Text → Text
  | [] => []
  | c :: r => (if c == '&' && !entityBody r then "&amp;".toList else [c]) ++ escapeAmpersands r

/-- The lenient form is three replacements, that of the ampersands first: those behind it write
ampersands of their own. -/
theorem escapeLoose_eq_replace (s : Text) :
    escapeLoose s =
      Text.replace ['>'] "&gt;".toList
        (Text.replace ['<'] "&lt;".toList (escapeAmpersands s)) := by
  rw [Text.replace_singleton, Text.replace_singleton]
  induction s with
  | nil => rfl
  | cons c s ih =>
    obtain ⟨here, heq, hwrites⟩ := exists_writes c s
    rw [heq, ih, escapeAmpersands, List.flatMap_append, List.flatMap_append]
    apply congrArg (· ++ _)
    cases hwrites with
    | less => rfl
    | greater => rfl
    | bare h =>
      rw [Bool.eq_false_iff.mpr (entityBody_iff.not.mpr h)]
      rfl
    | entity h =>
      rw [entityBody_iff.mpr h]
      rfl
    | plain _ h => simp [h.1, h.2.1, h.2.2]

/-! ## Main statement -/

/-- **The lenient form is safe, does its work once, and loses nothing.**  What it writes has no
angle bracket, and every ampersand in it begins an entity, so writing it again changes nothing.
Without entities in the text, reading back the three that it writes gives the text.  Character by
character, what begins an entity is kept, and whatever is not escaped is unchanged. -/
theorem escapeLoose_faithful (t : Text) :
    '<' ∉ escapeLoose t ∧ '>' ∉ escapeLoose t ∧
    (∀ r, '&' :: r <:+ escapeLoose t → NamesEntity r) ∧
    escapeLoose (escapeLoose t) = escapeLoose t ∧
    ((∀ r, '&' :: r <:+ t → ¬ NamesEntity r) → unescapeLoose (escapeLoose t) = t) ∧
    ∀ e, Escapes t e ↔ e = escapeLoose t := by
  have h := escaped_escapeLoose t
  exact ⟨h.less, h.greater, h.ampersand, h.escapeLoose_eq, unescapeLoose_escapeLoose,
    fun _ => escapes_iff⟩

/-- A text with half an entity: what is written for the bracket does not complete it. -/
theorem escapeLoose_faithful_halfEntity :
    ∃ t e : Text, t = "&lt<; a && b > c;".toList ∧
      e = "&amp;lt&lt;; a &amp;&amp; b &gt; c;".toList ∧
      (∀ r, '&' :: r <:+ t → ¬ NamesEntity r) ∧ escapeLoose t = e ∧ unescapeLoose e = t := by
  have hends : ∀ u ∈ "&lt<; a && b > c;".toList.tails,
      u.head? = some '&' → ¬ NamesEntity u.tail := by
    decide +kernel
  have hbare : ∀ r, '&' :: r <:+ "&lt<; a && b > c;".toList → ¬ NamesEntity r := by
    intro r hr
    exact hends _ ((List.mem_tails _ _).mpr hr) rfl
  obtain ⟨-, -, -, -, hback, -⟩ := escapeLoose_faithful "&lt<; a && b > c;".toList
  have hwritten : escapeLoose "&lt<; a && b > c;".toList =
      "&amp;lt&lt;; a &amp;&amp; b &gt; c;".toList := by
    decide +kernel
  exact ⟨_, _, rfl, rfl, hbare, hwritten, hwritten ▸ hback hbare⟩

end Docblock.Html
