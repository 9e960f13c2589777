/-
# Docblock.Proofs.Tag.Words — a tag says what its words say.

A tag is read from its words, so it does not matter how its text is wrapped into lines or spaced;
the one exception is an example, whose text stays as it is.  And the words are shared out without
loss: those of the type expression are counted by `typeSpan`, and all others go on to the fields of
the tag in their order (`ofText_keeps_words`).  A name and a description between them may lose a
lone dash, and two borrowed names the word between them.
-/
import Docblock.Proofs.Tag.Fields
import Docblock.Proofs.Text.Spacing

namespace Docblock.Tag

open Text (words unwords)

/-! ## The words of a type expression -/

/-- How many words in front belong to the type expression: a single one, unless it begins with an
opening brace; then all up to the first that ends with a closing brace, or all there are. -/
def typeSpan : List Text → Nat
  | [] => 0
  | w :: ws =>
    if Text.beginsWith ['\x7b'] w then
      (((w :: ws).findIdx? (Text.endsWith ['\x7d'])).map (· + 1)).getD (w :: ws).length
    else 1

theorem throughBrace_eq (ws : List Text) :
    throughBrace ws =
      ws.splitAt (((ws.findIdx? (Text.endsWith ['\x7d'])).map (· + 1)).getD ws.length) := by
  induction ws with
  | nil => rfl
  | cons w ws ih =>
    rw [throughBrace, List.findIdx?_cons]
    cases hw : Text.endsWith ['\x7d'] w with
    | true => simp
    | false =>
      rw [ih]
      cases ws.findIdx? (Text.endsWith ['\x7d']) <;> simp

/-- Up to the first word that ends with a closing brace all words are taken. -/
theorem throughBrace_append_cons {us : List Text} {v : Text}
    (hus : ∀ u ∈ us, Text.endsWith ['\x7d'] u = false) (hv : Text.endsWith ['\x7d'] v = true)
    (ws : List Text) : throughBrace (us ++ v :: ws) = (us ++ [v], ws) := by
  induction us with
  | nil => rw [List.nil_append, throughBrace, if_pos hv, List.nil_append]
  | cons u us ih =>
    have hu : ¬ Text.endsWith ['\x7d'] u = true := by simp [hus u List.mem_cons_self]
    have ih := ih fun x hx => hus x (List.mem_cons_of_mem u hx)
    rw [List.cons_append, throughBrace, if_neg hu, ih, List.cons_append]

/-- The words of the type expression are counted, and the others follow. -/
theorem typeWords_eq (ws : List Text) :
    typeWords ws = (ws.take (typeSpan ws), ws.drop (typeSpan ws)) := by
  cases ws with
  | nil => rfl
  | cons w ws =>
    rw [typeWords, typeSpan]
    split
    · rw [throughBrace_eq, List.splitAt_eq]
    · rfl

/-! ## Reading by words -/

theorem mentionsAddress_iff {s : Text} :
    mentionsAddress s = true ↔ ∃ w ∈ words s, "http".toList <:+: w := by
  have hword : Text.IsWord "http".toList := by decide
  rw [mentionsAddress, Text.has_iff hword.ne_nil, hword.infix_iff]

theorem Kind.ofKeyword_eq_example {k : Text} (h : Kind.ofKeyword k = .example) :
    k = "example".toList := by
  unfold Kind.ofKeyword at h
  -- the nine keywords in front are of other kinds
  iterate 9 replace h := ((ite_eq_iff.mp h).resolve_left fun hk => nomatch hk.2).2
  exact ((ite_eq_iff.mp h).resolve_right fun hk => nomatch hk.2).1

theorem type_ofText (s : Text) : (ofText s).type = (firstWord (words s)).erase '@' :=
  type_build _ _ _ s

/-- The kind of a tag and its words are what it is built from. -/
theorem ofText_eq (s : Text) :
    ofText s = build (Kind.ofKeyword (ofText s).type) (ofText s).type (words s).tail s := by
  rw [type_ofText]
  rfl

/-- Of the text itself only an example and an address are read. -/
theorem build_congr {k : Kind} (hk : k ≠ .example) (keyword : Text) (ws : List Text) {s s' : Text}
    (h : mentionsAddress s' = mentionsAddress s) :
    build k keyword ws s' = build k keyword ws s := by
  cases k with
  | «example» => exact absurd rfl hk
  | see =>
    simp only [build, h]
  | _ => rfl

theorem ofText_congr {s s' : Text} (h : (ofText s).type ≠ "example".toList)
    (hw : words s' = words s) : ofText s' = ofText s := by
  have htype : (ofText s').type = (ofText s).type := by rw [type_ofText, type_ofText, hw]
  have hkind : Kind.ofKeyword (ofText s).type ≠ .example := by
    intro hk
    exact h (Kind.ofKeyword_eq_example hk)
  have haddress : mentionsAddress s' = mentionsAddress s := by
    rw [Bool.eq_iff_iff, mentionsAddress_iff, mentionsAddress_iff, hw]
  rw [ofText_eq s', htype, hw, build_congr hkind _ _ haddress, ← ofText_eq]

/-! ## The words of a tag -/

/-- A field that is made of words, with single spaces between them. -/
structure HasWords (field : Option Text) (ws : List Text) : Prop where
  text : field = some (unwords ws)
  words : ∀ d ∈ field, words d = ws

/-- Where the words `ws` behind the keyword of a tag are found in it. -/
structure Keeps (t : Tag) (ws : List Text) : Prop where
  types : t.type ∈ ["param".toList, "return".toList, "throws".toList] →
    t.types = some (typeNames (unwords (ws.take (typeSpan ws))))
  described : t.type ∈ ["return".toList, "throws".toList] →
    HasWords t.description (ws.drop (typeSpan ws))
  named : t.type = "param".toList →
    t.name = some (ws[typeSpan ws]?.getD []) ∧
      HasWords t.description
        (if ws[typeSpan ws + 1]? = some ['-'] then ws.drop (typeSpan ws + 2)
          else ws.drop (typeSpan ws + 1))
  referred : t.type = "see".toList →
    (∃ title url, t.title = some title ∧ t.url = some url ∧ words title ++ words url = ws) ∨
      HasWords t.target ws
  borrowed : t.type = "borrows".toList →
    ∃ other this, t.otherMemberName = some other ∧ t.thisMemberName = some this ∧
      (" as ".toList <:+: unwords ws → unwords ws = other ++ (" as ".toList ++ this)) ∧
      (¬ " as ".toList <:+: unwords ws → unwords ws = other ∧ this = [])
  other : Kind.ofKeyword t.type = .other → HasWords t.string ws

section

variable {s : Text} {ws : List Text}

theorem hasWords_unwords (h : ∀ w ∈ ws, Text.IsWord w) : HasWords (some (unwords ws)) ws where
  text := rfl
  words d hd := by
    rw [← Option.some.inj hd]
    exact Text.words_unwords h

theorem ofText_of_type {keyword : Text} (h : (ofText s).type = keyword) :
    ofText s = build (Kind.ofKeyword keyword) keyword (words s).tail s := by
  have heq := ofText_eq s
  rwa [h] at heq

theorem dropDash_eq (ws : List Text) :
    dropDash ws = if ws[0]? = some ['-'] then ws.drop 1 else ws := by
  cases ws with
  | nil => rfl
  | cons w ws => simp [dropDash]

theorem firstWord_eq (ws : List Text) : firstWord ws = ws[0]?.getD [] := by
  cases ws <;> rfl

/-- The words of a reference are its title and its address, or what is meant nearby. -/
theorem build_see_keeps (h : ∀ w ∈ ws, Text.IsWord w) (keyword : Text) :
    (∃ title url, (build .see keyword ws s).title = some title ∧
      (build .see keyword ws s).url = some url ∧ words title ++ words url = ws) ∨
      HasWords (build .see keyword ws s).target ws := by
  by_cases ha : mentionsAddress s = true
  · left
    simp only [build, ha, if_true]
    split
    · next w v vs =>
      refine ⟨w, unwords (v :: vs), rfl, rfl, ?_⟩
      rw [(h w List.mem_cons_self).words_eq, Text.words_unwords]
      · rfl
      · intro u hu
        exact h u (List.mem_cons_of_mem w hu)
    · refine ⟨[], unwords ws, rfl, rfl, ?_⟩
      rw [Text.words_nil, Text.words_unwords h, List.nil_append]
  · right
    rw [build_see_of_not_mentionsAddress ha]
    exact hasWords_unwords h

theorem borrowed_spec (ws : List Text) :
    (" as ".toList <:+: unwords ws →
        unwords ws = (Tag.borrowed ws).1 ++ (" as ".toList ++ (Tag.borrowed ws).2)) ∧
      (¬ " as ".toList <:+: unwords ws →
        unwords ws = (Tag.borrowed ws).1 ∧ (Tag.borrowed ws).2 = []) := by
  have hborrowed : Tag.borrowed ws =
      ((Text.cut " as ".toList (unwords ws)).1, (Text.cut " as ".toList (unwords ws)).2.getD []) :=
    rfl
  rw [hborrowed]
  rcases Text.cut_spec (m := " as ".toList) (by decide) (unwords ws) with
    ⟨hn, hcut⟩ | ⟨a, r, -, hs, hcut⟩
  · rw [hcut]
    exact ⟨fun h => absurd h hn, fun _ => ⟨rfl, rfl⟩⟩
  · have hi : " as ".toList <:+: unwords ws := ⟨a, r, by rw [hs, List.append_assoc]⟩
    rw [hcut]
    exact ⟨fun _ => hs, fun h => absurd hi h⟩

end

/-- A tag that is no example depends on its words alone, and keeps those behind its keyword. -/
theorem ofText_keeps_words {s : Text} (h : (ofText s).type ≠ "example".toList) :
    (∀ s', words s' = words s → ofText s' = ofText s) ∧ (ofText s).Keeps (words s).tail := by
  have hword : ∀ w ∈ (words s).tail, Text.IsWord w := by
    intro w hw
    exact Text.isWord_of_mem_words (List.mem_of_mem_tail hw)
  have hdrop : ∀ n, ∀ w ∈ (words s).tail.drop n, Text.IsWord w := by
    intro n w hw
    exact hword w (List.mem_of_mem_drop hw)
  refine ⟨fun s' hw => ofText_congr h hw, ?_, ?_, ?_, ?_, ?_, ?_⟩
  · intro ht
    rcases (List.mem_cons.mp ht).imp_right List.mem_pair.mp with ht | ht | ht
    all_goals
      rw [ofText_of_type ht]
      show some (typeNames (unwords (typeWords (words s).tail).1)) = _
      rw [typeWords_eq]
  · intro ht
    rcases List.mem_pair.mp ht with ht | ht
    all_goals
      rw [ofText_of_type ht]
      show HasWords (some (unwords (typeWords (words s).tail).2)) _
      rw [typeWords_eq]
      exact hasWords_unwords (hdrop _)
  · intro ht
    rw [ofText_of_type ht]
    show some (firstWord (typeWords (words s).tail).2) = _ ∧
      HasWords (some (unwords (dropDash (typeWords (words s).tail).2.tail))) _
    rw [typeWords_eq, firstWord_eq, dropDash_eq]
    simp only [List.tail_drop, List.drop_drop, List.getElem?_drop, Nat.add_zero, true_and]
    split
    · exact hasWords_unwords (hdrop _)
    · exact hasWords_unwords (hdrop _)
  · intro ht
    rw [ofText_of_type ht]
    exact build_see_keeps hword _
  · intro ht
    rw [ofText_of_type ht]
    exact ⟨_, _, rfl, rfl, borrowed_spec _⟩
  · intro hk
    have htag := ofText_of_type (s := s) rfl
    rw [hk] at htag
    rw [htag]
    exact hasWords_unwords hword

/-- A parameter on three lines, with a type of three words, and the same on one line. -/
theorem ofText_keeps_words_wrapped :
    ∃ s s' : Text, (ofText s).type ≠ "example".toList ∧ words s' = words s ∧ '\n' ∉ s' ∧
      ofText s' = ofText s ∧ (ofText s).Keeps (words s).tail ∧ typeSpan (words s).tail = 3 := by
  have h : (ofText "@param \x7bArray of\n  String\x7d xs\n  - the items".toList).type ≠
      "example".toList := by
    decide +kernel
  have hw : words "@param \x7bArray of String\x7d xs - the items".toList =
      words "@param \x7bArray of\n  String\x7d xs\n  - the items".toList := by
    decide +kernel
  have hkeeps := ofText_keeps_words h
  exact ⟨_, _, h, hw, by decide, hkeeps.1 _ hw, hkeeps.2, by decide +kernel⟩

end Docblock.Tag
