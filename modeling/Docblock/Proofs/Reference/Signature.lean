/-
# Docblock.Proofs.Reference.Signature — a signature is a single line.

Whatever a source says, the signature of a documented member stands on one line, and this line does
not end with a blank.  Its names are identifiers and paths of them; the names and types of its
parameters are made of words, which hold no blanks, with single spaces between them.
-/
import Docblock.Proofs.Declaration.Piece
import Docblock.Proofs.Declaration.Shape
import Docblock.Proofs.Scan.Member
import Docblock.Proofs.Tag.Words
import Docblock.Reference.Entry

namespace Docblock

/-! ## Parameters -/

namespace Tag

/-- The words of a type expression and those behind it are the words of the list. -/
theorem typeWords_append (ws : List Text) : (typeWords ws).1 ++ (typeWords ws).2 = ws := by
  rw [typeWords_eq, List.take_append_drop]

theorem mem_of_mem_unbrace {s : Text} {c : Char} (h : c ∈ unbrace s) : c ∈ s := by
  have front (s : Text) : (Text.after? ['\x7b'] s).getD s <:+ s := by
    cases hs : Text.after? ['\x7b'] s with
    | none => exact List.suffix_rfl
    | some r => exact ⟨_, (Text.after?_eq_some_iff.mp hs).symm⟩
  have back (s : Text) : (Text.before? ['\x7d'] s).getD s <+: s := by
    cases hs : Text.before? ['\x7d'] s with
    | none => exact List.prefix_rfl
    | some r => exact ⟨_, (Text.before?_eq_some_iff.mp hs).symm⟩
  exact (front s).subset ((back _).subset h)

/-- A type name has characters of its type expression. -/
theorem mem_of_mem_typeNames {s n : Text} {c : Char} (hn : n ∈ typeNames s) (hc : c ∈ n) :
    c ∈ s := by
  obtain ⟨p, hp, rfl⟩ := List.mem_map.mp (List.mem_filter.mp hn).1
  have hin := (Text.of_mem_splitOnP hp (Text.mem_of_mem_trim hc)).1
  exact Text.mem_of_mem_trim (mem_of_mem_unbrace hin)

theorem ofText_of_param {s : Text} (h : (ofText s).type = "param".toList) :
    ofText s =
      { type := "param".toList
        types := some (takeTypes (Text.words s).tail).1
        name := some (firstWord (takeTypes (Text.words s).tail).2)
        description :=
          some (Text.unwords (dropDash (takeTypes (Text.words s).tail).2.tail)) } := by
  have hkind : Kind.ofKeyword "param".toList = .param := by decide
  rw [ofText_of_type h, hkind, build]

/-- The types and the name that are read for a parameter have no line feed. -/
theorem newline_not_mem_of_param {s : Text} (h : (ofText s).type = "param".toList) :
    (∀ n ∈ (ofText s).types.getD [], '\n' ∉ n) ∧ '\n' ∉ (ofText s).name.getD [] := by
  have hwords : ∀ w ∈ (Text.words s).tail, '\n' ∉ w := fun w hw =>
    Text.newline_not_mem_of_mem_words (List.mem_of_mem_tail hw)
  have hparts := typeWords_append (Text.words s).tail
  have htypes : (ofText s).types =
      some (typeNames (Text.unwords (typeWords (Text.words s).tail).1)) := by
    rw [ofText_of_param h, takeTypes]
  have hname : (ofText s).name = some (firstWord (typeWords (Text.words s).tail).2) := by
    rw [ofText_of_param h, takeTypes]
  rw [htypes, hname, Option.getD_some, Option.getD_some]
  constructor
  · intro n hn hnl
    have hjoin : '\n' ∉ Text.unwords (typeWords (Text.words s).tail).1 :=
      Text.newline_not_mem_join (by decide) fun w hw =>
        hwords w (hparts ▸ List.mem_append_left _ hw)
    exact hjoin (mem_of_mem_typeNames hn hnl)
  · cases hrest : (typeWords (Text.words s).tail).2 with
    | nil => exact List.not_mem_nil
    | cons w ws =>
      exact hwords w (hparts ▸ List.mem_append_right _ (hrest ▸ List.mem_cons_self))

end Tag

namespace Entry

theorem newline_not_mem_parameter {s : Text} (h : (Tag.ofText s).type = "param".toList) :
    '\n' ∉ parameter (Tag.ofText s) := by
  obtain ⟨htypes, hname⟩ := Tag.newline_not_mem_of_param h
  have hjoin : '\n' ∉ Text.join ['|'] ((Tag.ofText s).types.getD []) :=
    Text.newline_not_mem_join (by decide) htypes
  have hcalled : '\n' ∉ (Tag.ofText s).name.getD "None".toList := by
    cases hn : (Tag.ofText s).name with
    | none => decide
    | some n => rwa [hn] at hname
  rw [parameter]
  split
  · exact hname
  · intro hn
    rcases List.mem_append.mp hn with hn | hn
    · exact hcalled hn
    · exact hjoin (List.mem_of_ne_of_mem (by decide) hn)

theorem newline_not_mem_parameters {s : Text} {k : Comment} (h : k.OfScan s) :
    '\n' ∉ parameters k := by
  refine Text.newline_not_mem_join (by decide) fun p hp => ?_
  obtain ⟨t, ht, rfl⟩ := List.mem_map.mp hp
  obtain ⟨ht, htype⟩ := List.mem_filter.mp ht
  obtain ⟨u, rfl⟩ := h.tag t ht
  exact newline_not_mem_parameter (of_decide_eq_true htype)

end Entry

/-! ## Names -/

namespace Declaration

/-- What is read off a line: the name is an identifier, and the owner is on the line as well. -/
structure Reading.Plain (r : Reading) : Prop where
  name : Text.IsTitle r.name
  owner : '\n' ∉ r.owner

theorem IsName.isTitle {x : Text} (h : IsName x) : Text.IsTitle x :=
  Text.isTitle_of_forall h.ne_nil fun c hc =>
    OwnerBlock.isBlank_of_isPath (isPath_of_isIdentifier (h.identifier c hc))

theorem plain_of_identifier? {s n r value : Text} (h : identifier? s = some (n, r)) :
    (⟨[], n, value⟩ : Reading).Plain :=
  ⟨(identifier?_eq_some_iff.mp h).1.isTitle, List.not_mem_nil⟩

theorem plain_of_dotted? {s owner n r value : Text} (h : dotted? s = some (owner, n, r)) :
    (⟨owner, n, value⟩ : Reading).Plain := by
  obtain ⟨ho, hn, -, -⟩ := dotted?_eq_some_iff.mp h
  refine ⟨hn.isTitle, fun hm => ?_⟩
  exact absurd (OwnerBlock.isBlank_of_isPath (ho.path '\n' hm)) (by decide)

theorem plain_of_prototyped? {s owner n r value : Text}
    (h : prototyped? s = some (owner, n, r)) : (⟨owner, n, value⟩ : Reading).Plain := by
  obtain ⟨ho, hn, -, -⟩ := prototyped?_eq_some_iff.mp h
  exact ⟨hn.isTitle, ho.isTitle.newline⟩

/-- Every shape reads a name off a line, and an owner when it has one. -/
theorem plain_of_read? {shape : Shape} {s : Text} {r : Reading} (h : shape.read? s = some r) :
    r.Plain := by
  -- whatever a shape asks of the line behind the name, the name comes from one of three readers
  cases shape with
    simp only [Shape.read?, Option.bind_eq_bind, Option.bind_eq_some_iff] at h
  | functionStatement =>
    obtain ⟨t, -, ⟨n, t'⟩, hn, t'', -, h⟩ := h
    cases h
    exact plain_of_identifier? hn
  | functionExpression =>
    obtain ⟨t, -, ⟨n, t'⟩, hn, t'', -, h⟩ := h
    split at h
    · cases h
      exact plain_of_identifier? hn
    · cases h
  | prototypeMethod =>
    obtain ⟨⟨o, n, t⟩, hn, t', -, h⟩ := h
    split at h
    · cases h
      exact plain_of_prototyped? hn
    · cases h
  | prototypeProperty =>
    obtain ⟨⟨o, n, t⟩, hn, t', -, v, -, h⟩ := h
    cases h
    exact plain_of_prototyped? hn
  | method =>
    obtain ⟨⟨o, n, t⟩, hn, t', -, h⟩ := h
    split at h
    · cases h
      exact plain_of_dotted? hn
    · cases h
  | shorthandMethod =>
    obtain ⟨⟨n, t⟩, hn, t', -, h⟩ := h
    split at h
    · cases h
      exact plain_of_identifier? hn
    · cases h
  | property =>
    obtain ⟨⟨o, n, t⟩, hn, t', -, v, -, h⟩ := h
    cases h
    exact plain_of_dotted? hn
  | shorthandProperty =>
    obtain ⟨⟨n, t⟩, hn, t', -, v, -, h⟩ := h
    cases h
    exact plain_of_identifier? hn
  | bareVariable =>
    obtain ⟨t, -, ⟨n, t'⟩, hn, h⟩ := h
    cases h
    exact plain_of_identifier? hn

theorem isTitle_memberText {owner : Option Text} {n : Text}
    (ho : ∀ o ∈ owner, '\n' ∉ o) (hn : Text.IsTitle n) : Text.IsTitle (memberText owner n) := by
  unfold memberText
  split
  · next c o =>
    refine Text.IsTitle.append (ho _ rfl) ?_
    exact Text.IsTitle.append (a := ['.']) (by decide) hn
  · exact hn

end Declaration

theorem OwnerBlock.newline_not_mem_name {s : Text} {b : OwnerBlock} (h : b ∈ inSource s) :
    '\n' ∉ b.name := by
  intro hn
  exact absurd (isBlank_of_isPath ((path_of_mem_inSource h).2 '\n' hn)) (by decide)

namespace Entry

/-! ## Signatures -/

variable {s : Text} {k : Comment}

theorem isTitle_call (h : k.OfScan s) {name : Text} (hn : '\n' ∉ name) :
    Text.IsTitle (call name k) where
  newline hc := by
    rcases List.mem_append.mp hc with hc | hc
    · rcases List.mem_append.mp hc with hc | hc
      · exact hn hc
      · exact newline_not_mem_parameters h (List.mem_of_ne_of_mem (by decide) hc)
    · exact absurd hc (by decide)
  back := ⟨_, _, rfl, by decide⟩

theorem isTitle_signatureOf_ofReading (h : k.OfScan s) {r : Declaration.Reading} (hr : r.Plain)
    {enclosing : Option Text} (ho : ∀ o ∈ enclosing, '\n' ∉ o) (shape : Declaration.Shape) :
    Text.IsTitle (signatureOf k (Declaration.ofReading r enclosing shape)) := by
  have howner : ∀ o ∈ some r.owner, '\n' ∉ o := fun o ho => Option.some.inj ho ▸ hr.owner
  cases shape with
  | functionStatement | functionExpression => exact isTitle_call h hr.name.newline
  | prototypeMethod | method =>
    exact isTitle_call h (Declaration.isTitle_memberText howner hr.name).newline
  | shorthandMethod =>
    exact isTitle_call h (Declaration.isTitle_memberText ho hr.name).newline
  | prototypeProperty =>
    exact .append (fun hn => (List.mem_append.mp hn).elim hr.owner (by decide)) hr.name
  | property => exact Declaration.isTitle_memberText howner hr.name
  | shorthandProperty => exact Declaration.isTitle_memberText ho hr.name
  | bareVariable => exact hr.name

/-- The signature of what a comment of a scan declares. -/
theorem isTitle_signatureOf (h : k.OfScan s) {d : Declaration} (hd : k.declaration = some d) :
    Text.IsTitle (signatureOf k d) := by
  obtain ⟨code, place, -, hread⟩ := h.declaration d hd
  rw [Declaration.ofCode?_eq_bind_shape?] at hread
  obtain ⟨shape, -, hread⟩ := Option.bind_eq_some_iff.mp hread
  obtain ⟨r, hr, rfl⟩ := Option.map_eq_some_iff.mp hread
  refine isTitle_signatureOf_ofReading h (Declaration.plain_of_read? hr) (fun o ho => ?_) shape
  split at ho
  · obtain ⟨b, hb, rfl⟩ := Option.map_eq_some_iff.mp ho
    exact OwnerBlock.newline_not_mem_name (List.mem_of_find?_eq_some hb)
  · cases ho

end Entry

end Docblock
