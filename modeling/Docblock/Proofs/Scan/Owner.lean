/-
# Docblock.Proofs.Scan.Owner — the owners that a scan finds.

A member in shorthand gets its owner from the first block that holds the place of its code.  That
place comes from the layout of the source, the blocks from its lines, and the two know nothing of
each other; what joins them is that the code a comment carries begins right behind a comment, or at
the front of the source, and does not begin with a marker of a block.  Main statement: the block
that gives an owner opens before the code and closes behind it, and nothing in a scan depends on
whether the last place of a block belongs to it (`owners_enclose`).
-/
import Docblock.Proofs.Declaration.Shape
import Docblock.Proofs.OwnerBlock.Enclosure
import Docblock.Proofs.Scan.Comments

namespace Docblock

open OwnerBlock (CodeAt IsMarker)

/-! ## The places of carried code -/

namespace Layout

/-- The places where the code of the comments of a layout begins, behind the blanks in front. -/
def codePlaces (l : Layout) : List Nat :=
  l.carried.map fun r => r.1 + (r.2.takeWhile isBlank).length

/-- Block comments that follow one another begin with a slash. -/
theorem partsText_front (ps : List (BlockComment × Text)) :
    partsText ps = [] ∨ ['/'] <+: partsText ps := by
  cases ps with
  | nil => exact Or.inl rfl
  | cons p ps => exact Or.inr ⟨_, rfl⟩

/-- A block comment of the grammar ends with a slash, or no code follows it. -/
theorem Parts.slash_or_nil {ps : List (BlockComment × Text)} (h : Parts ps) {b : BlockComment}
    {c : Text} (hb : (b, c) ∈ ps) : ['/'] <:+ b.text ∨ c = [] := by
  induction h with
  | nil => exact absurd hb List.not_mem_nil
  | unclosed =>
    obtain ⟨rfl, rfl⟩ := Prod.mk.inj (List.mem_singleton.mp hb)
    exact Or.inr rfl
  | @closed b' c' ps' hclosed _ _ _ ih =>
    rcases List.mem_cons.mp hb with hb | hb
    · obtain ⟨rfl, rfl⟩ := Prod.mk.inj hb
      left
      refine ⟨'/' :: '*' :: ((if b.marked then ['!'] else []) ++ (b.body ++ ['*'])), ?_⟩
      simp [BlockComment.text, hclosed]
    · exact ih hb

/-- Behind a slash, or at the front of a text, blanks are all that stands behind the last slash. -/
theorem blank_of_suffix {u w v : Text} (hu : u = [] ∨ ['/'] <:+ u)
    (hw : Text.blank w = true) (hv : v <:+ u ++ w) (hs : '/' ∉ v) : Text.blank v = true := by
  have hblank : ∀ {v' : Text}, v' <:+ w → Text.blank v' = true := fun h =>
    Text.blank_of_subset hw h.subset
  rcases List.suffix_or_suffix_of_suffix hv (List.suffix_append u w) with hvw | ⟨e, rfl⟩
  · exact hblank hvw
  · have he : e <:+ u := by
      obtain ⟨r, hr⟩ := hv
      rw [← List.append_assoc] at hr
      exact ⟨r, List.append_cancel_right hr⟩
    cases e using List.reverseRecOn with
    | nil => exact hblank List.suffix_rfl
    | append_singleton e y =>
      rcases hu with rfl | hu
      · exact absurd (List.suffix_nil.mp he) (by simp)
      · -- the last character of `u` is the slash
        obtain ⟨r, hr⟩ := he
        obtain ⟨r', hr'⟩ := hu
        rw [← hr', ← List.append_assoc] at hr
        obtain rfl := (List.append_singleton_inj.mp hr).2
        exact absurd (by simp) hs

theorem append_eq_trimStart (u c r : Text) :
    u ++ (c ++ r) = (u ++ c.takeWhile isBlank) ++ (Text.trimStart c ++ r) := by
  conv_lhs => rw [← List.takeWhile_append_dropWhile (p := isBlank) (l := c)]
  simp only [Text.trimStart, List.append_assoc]

/-- Code that is not blank begins at its place in the sense of the owner blocks. -/
theorem codeAt_of_append {u c r : Text} (hu : u = [] ∨ ['/'] <:+ u) (hr : r = [] ∨ ['/'] <+: r)
    (hc : Text.blank c = false) :
    CodeAt (u ++ (c ++ r)) (u.length + (c.takeWhile isBlank).length) (Text.trimStart c) where
  front := by
    cases ht : Text.trimStart c with
    | nil =>
      have hb : Text.blank c = true := Text.blank_iff.mpr (List.dropWhile_eq_nil_iff.mp ht)
      exact absurd (hb.symm.trans hc) (by decide)
    | cons x t =>
      refine ⟨x, t, rfl, ?_⟩
      have := List.head?_dropWhile_not isBlank c
      rw [show c.dropWhile isBlank = x :: t from ht] at this
      simpa using this
  ahead v hv hs := by
    rw [append_eq_trimStart, ← List.length_append, List.take_left] at hv
    exact blank_of_suffix hu (Text.blank_takeWhile c) hv hs
  behind := by
    refine ⟨r, ?_, hr⟩
    rw [append_eq_trimStart, ← List.length_append, List.drop_left]

/-- The code that a comment of a source carries begins where the layout says. -/
theorem codeAt_of_mem_carried {l : Layout} (hg : l.Grammatical) {place : Nat} {c : Text}
    (h : (place, c) ∈ l.carried) (hc : Text.blank c = false) :
    CodeAt l.text (place + (c.takeWhile isBlank).length) (Text.trimStart c) := by
  by_cases hn : l.parts = []
  · have hl : (place, c) = (0, l.lead) := by simpa [carried, hn] using h
    obtain ⟨rfl, rfl⟩ := Prod.mk.inj hl
    have := codeAt_of_append (u := []) (r := []) (Or.inl rfl) (Or.inl rfl) hc
    simpa [text, hn] using this
  · obtain ⟨i, hi⟩ := List.mem_iff_getElem?.mp h
    have hlt : i < l.parts.length := by
      have := (List.getElem?_eq_some_iff.mp hi).1
      rwa [carried_eq_carriedFrom hn, length_carriedFrom] at this
    obtain ⟨b, c', hb⟩ : ∃ b c', l.parts[i]? = some (b, c') :=
      ⟨_, _, List.getElem?_eq_getElem hlt⟩
    rw [carried_getElem? hb] at hi
    obtain ⟨rfl, rfl⟩ := Prod.mk.inj (Option.some.inj hi)
    rw [text_eq_before_append hb]
    refine codeAt_of_append ?_ (partsText_front _) hc
    rcases hg.parts.slash_or_nil (List.mem_of_getElem? hb) with hs | rfl
    · right
      rw [before, hb]
      exact hs.trans (List.suffix_append _ _)
    · exact absurd hc (by decide)

end Layout

/-! ## Members in shorthand -/

namespace Comment

/-- The owner that the declaration behind a comment names. -/
def owner? (k : Comment) : Option Text := k.declaration.bind fun d => d.scope.bind (·.owner)

/-- Whether the code behind a comment is read by a shape of a member in shorthand. -/
def isShorthand (k : Comment) : Bool := (k.code.bind Declaration.shape?).any (·.isScoped)

end Comment

namespace Layout

/-- Code that is read as a member in shorthand does not begin with a marker. -/
theorem not_marker_of_shape? {c : Text} {shape : Declaration.Shape}
    (h : Declaration.shape? (Text.trim c) = some shape) (hs : shape.isScoped = true) :
    ∀ m, IsMarker m → ¬ m <+: Text.trimStart c := by
  intro m hm hp
  obtain ⟨t, x, rfl, hx⟩ := hm.tight.back
  have hcode : t ++ [x] <+: Text.trim (Text.trim c) := by
    rw [Text.trim_trim]
    exact Text.prefix_trimEnd hp hx
  exact Declaration.not_marker_of_shape? h hs hm hcode

/-- The declaration of carried code does not depend on the last places of the blocks. -/
theorem ofCode?_halfOpen {s c : Text} {p : Nat} (h : CodeAt s p (Text.trimStart c)) :
    Declaration.ofCode? (Text.trim c) p ((OwnerBlock.inSource s).map OwnerBlock.halfOpen) =
      Declaration.ofCode? (Text.trim c) p (OwnerBlock.inSource s) := by
  rw [Declaration.ofCode?_eq_bind_shape?, Declaration.ofCode?_eq_bind_shape?]
  cases hshape : Declaration.shape? (Text.trim c) with
  | none => rfl
  | some shape =>
    cases hs : shape.isScoped with
    | false => simp only [Option.bind_some, hs, Bool.false_eq_true, if_false]
    | true => rw [Option.bind_some, Option.bind_some,
        h.ownerAt_halfOpen (not_marker_of_shape? hshape hs)]

theorem comments_halfOpen {l : Layout} (hg : l.Grammatical) (st : Style) :
    l.comments st ((OwnerBlock.inSource l.text).map OwnerBlock.halfOpen) =
      l.comments st (OwnerBlock.inSource l.text) := by
  rw [comments_eq_zipWith, comments_eq_zipWith]
  apply List.ext_getElem?
  intro i
  rw [List.getElem?_zipWith, List.getElem?_zipWith]
  cases hk : (l.bareComments st)[i]? with
  | none => rfl
  | some k =>
    cases hr : l.carried[i]? with
    | none => rfl
    | some r =>
      obtain ⟨place, c⟩ := r
      show some (k.withCode _ place c) = some (k.withCode _ place c)
      cases hc : Text.blank c with
      | true => rw [Comment.withCode_of_blank _ _ _ hc, Comment.withCode_of_blank _ _ _ hc]
      | false =>
        have hcode := codeAt_of_mem_carried hg (List.mem_of_getElem? hr) hc
        rw [Comment.withCode_of_not_blank _ _ _ hc, Comment.withCode_of_not_blank _ _ _ hc,
          ofCode?_halfOpen hcode]

theorem code_of_mem_bareComments {l : Layout} {st : Style} {k : Comment}
    (h : k ∈ l.bareComments st) : k.code = none := by
  unfold bareComments at h
  split at h
  · rw [List.mem_singleton.mp h]
  · obtain ⟨p, -, rfl⟩ := List.mem_map.mp h
    rfl

/-- The block that gives a member in shorthand its owner encloses the code of the member. -/
theorem encloses_of_owner? {l : Layout} (hg : l.Grammatical) {st : Style} {i : Nat} {k : Comment}
    {o : Text} (hk : (l.comments st (OwnerBlock.inSource l.text))[i]? = some k)
    (hs : k.isShorthand = true) (ho : k.owner? = some o) :
    ∃ (p : Nat) (code : Text) (b : OwnerBlock),
      l.codePlaces[i]? = some p ∧ k.code = some code ∧ code <+: l.text.drop p ∧
      (OwnerBlock.inSource l.text).find? (·.holds p) = some b ∧ b.name = o ∧
      OwnerBlock.Encloses l.text b p := by
  rw [comments_eq_zipWith, List.getElem?_zipWith_eq_some] at hk
  obtain ⟨k₀, ⟨place, c⟩, hk₀, hr, rfl⟩ := hk
  have hbare := code_of_mem_bareComments (List.mem_of_getElem? hk₀)
  cases hc : Text.blank c with
  | true =>
    -- a comment that carries no code has no shape
    rw [Comment.withCode_of_blank _ _ _ hc, Comment.isShorthand, hbare] at hs
    exact absurd hs Bool.false_ne_true
  | false =>
    rw [Comment.withCode_of_not_blank _ _ _ hc] at hs ho ⊢
    have hcode := codeAt_of_mem_carried hg (List.mem_of_getElem? hr) hc
    obtain ⟨shape, hshape, hscoped⟩ : ∃ shape, Declaration.shape? (Text.trim c) = some shape ∧
        shape.isScoped = true := by
      simpa [Comment.isShorthand, Option.any_eq_true] using hs
    obtain ⟨r, hread⟩ := Option.isSome_iff_exists.mp (Declaration.isSome_read?_of_shape? hshape)
    have howner : OwnerBlock.ownerAt (place + (c.takeWhile isBlank).length : Nat)
        (OwnerBlock.inSource l.text) = some o := by
      have hd := Declaration.ofCode?_eq_bind_shape? (Text.trim c)
        (place + (c.takeWhile isBlank).length : Nat) (OwnerBlock.inSource l.text)
      rw [hshape, Option.bind_some, hread, Option.map_some, hscoped, if_pos rfl] at hd
      rw [Comment.owner?, hd] at ho
      simpa [Declaration.scope_ofReading_of_isScoped hscoped] using ho
    obtain ⟨b, hb, hname⟩ := Option.map_eq_some_iff.mp howner
    refine ⟨_, Text.trim c, b, ?_, rfl, ?_, hb, hname, ?_⟩
    · rw [codePlaces, List.getElem?_map, hr]
      rfl
    · obtain ⟨rest, hrest, -⟩ := hcode.behind
      rw [hrest]
      exact (Text.trimEnd_prefix _).trans (List.prefix_append _ _)
    · exact hcode.encloses_of_holds (not_marker_of_shape? hshape hscoped)
        (List.mem_of_find?_eq_some hb) (by simpa using List.find?_some hb)

end Layout

namespace Scan

/-- The block that gives a member in shorthand its owner has a closing marker and encloses the code
of the member; and blocks without their last places lead to the same outcome of the scan. -/
theorem owners_enclose (st : Style) (source : Text) :
    (∀ (i : Nat) (k : Comment) (o : Text), (ofSource st source).comments[i]? = some k →
      k.isShorthand = true → k.owner? = some o →
      ∃ (p : Nat) (code : Text) (b : OwnerBlock),
        (Layout.ofSource (unifyNewlines source)).codePlaces[i]? = some p ∧
        k.code = some code ∧ code <+: (unifyNewlines source).drop p ∧
        (OwnerBlock.inSource (unifyNewlines source)).find? (·.holds p) = some b ∧ b.name = o ∧
        OwnerBlock.Encloses (unifyNewlines source) b p) ∧
    (ofSourceWith st (fun s => (OwnerBlock.inSource s).map OwnerBlock.halfOpen) source =
        ofSource st source ∧
      ∀ (b : OwnerBlock) (x : Int), b.halfOpen.holds x = true ↔ b.start ≤ x ∧ x < b.stop) := by
  have hg := Layout.ofSource_grammatical (unifyNewlines source)
  have ht := Layout.text_ofSource (unifyNewlines source)
  refine ⟨?_, ?_, fun b x => OwnerBlock.holds_halfOpen_iff⟩
  · intro i k o hk hs ho
    have hl : ((Layout.ofSource (unifyNewlines source)).comments st (OwnerBlock.inSource
        (Layout.ofSource (unifyNewlines source)).text))[i]? = some k := by
      rw [ht]
      exact hk
    have := Layout.encloses_of_owner? hg hl hs ho
    rwa [ht] at this
  · have hcomments := Layout.comments_halfOpen hg st
    rw [ht] at hcomments
    show Scan.mk _ _ = Scan.mk _ _
    rw [hcomments, List.length_map]

/-- An object that is assigned to a prototype is the owner of the member in it. -/
theorem owners_enclose_member :
    ∃ (source : Text) (k : Comment) (p : Nat) (b : OwnerBlock),
      (ofSource Style.untouched source).comments[0]? = some k ∧ k.isShorthand = true ∧
      k.owner? = some ['A'] ∧ b.name = ['A'] ∧
      OwnerBlock.Encloses (unifyNewlines source) b p := by
  have hk : ((ofSource Style.untouched
      "A.prototype = \x7b\n/** x */\nm: function() \x7b\x7d\n\x7d;".toList).comments[0]?.map
        fun k => (k.isShorthand, k.owner?)) = some (true, some ['A']) := by
    decide +kernel
  obtain ⟨k, hk, hko⟩ := Option.map_eq_some_iff.mp hk
  obtain ⟨hs, ho⟩ := Prod.mk.inj hko
  obtain ⟨p, code, b, -, -, -, -, hb, he⟩ := (owners_enclose Style.untouched _).1 0 k ['A'] hk hs ho
  exact ⟨_, k, p, b, hk, hs, ho, hb, he⟩

end Scan

end Docblock
