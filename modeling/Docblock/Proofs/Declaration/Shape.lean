/-
# Docblock.Proofs.Declaration.Shape — which shape reads a line.

A declaration is made by the first shape that reads the line, and that shape does not depend on the
blocks around the line: they are asked for the owner only, and only when the shape is one of a
member in shorthand (`ofCode?_eq_bind_shape?`).  Such a shape does not read a line that begins with
a marker of a block, because behind an identifier in front of a marker there is no colon.
-/
import Docblock.Proofs.Declaration.Piece

namespace Docblock

namespace Declaration

/-! ## The first shape -/

/-- The shape that reads the front of a piece of code, the first one in order. -/
def shape? (code : Text) : Option Shape :=
  Shape.order.find? fun shape => (shape.read? (Text.firstLine (Text.trim code))).isSome

theorem findSome?_eq_bind_find? {α β : Type} (l : List α) (f : α → Option β) :
    l.findSome? f = (l.find? fun a => (f a).isSome).bind f := by
  induction l with
  | nil => rfl
  | cons a l ih =>
    rw [List.findSome?_cons, List.find?_cons, ih]
    cases h : f a with
    | none => rfl
    | some b => exact h.symm

/-- The first shape that reads the code makes the declaration; the owner around the code matters to
a shape of a member in shorthand only. -/
theorem ofCode?_eq_bind_shape? (code : Text) (offset : Int) (blocks : List OwnerBlock) :
    ofCode? code offset blocks =
      (shape? code).bind fun shape =>
        (shape.read? (Text.firstLine (Text.trim code))).map fun r =>
          ofReading r (if shape.isScoped then OwnerBlock.ownerAt offset blocks else none)
            shape := by
  rw [ofCode?, onLine?, findSome?_eq_bind_find?, shape?]
  simp only [Option.isSome_map]

/-- A shape that reads code is one that reads its first line. -/
theorem isSome_read?_of_shape? {code : Text} {shape : Shape} (h : shape? code = some shape) :
    (shape.read? (Text.firstLine (Text.trim code))).isSome = true :=
  List.find?_some (p := fun shape : Shape =>
    (shape.read? (Text.firstLine (Text.trim code))).isSome) h

/-- The declaration of a member in shorthand belongs to the owner around its line. -/
theorem scope_ofReading_of_isScoped {shape : Shape} (h : shape.isScoped = true) (r : Reading)
    (enclosing : Option Text) :
    (ofReading r enclosing shape).scope = some ⟨enclosing, .ofInstance⟩ := by
  cases shape <;> first | rfl | exact absurd h (by decide)

/-! ## Lines that begin with a marker -/

theorem behindSign?_eq_none {sign y : Char} {t : Text} (hy : y ≠ sign) (hi : isIndent y = false) :
    behindSign? sign (y :: t) = none := by
  have hd : (y :: t).dropWhile isIndent = y :: t :=
    List.dropWhile_cons_of_neg (by simp [hi])
  rw [behindSign?, hd, Text.after?_eq_none_iff]
  intro hp
  exact hy (List.cons_prefix_cons.mp hp).1.symm

theorem rest_of_identifier? {s n r : Text} (h : identifier? s = some (n, r)) :
    r = s.dropWhile isIdentifier := by
  obtain ⟨hn, hr, rfl⟩ := identifier?_eq_some_iff.mp h
  exact (Text.dropWhile_append_of_stops hn.identifier hr).symm

/-- A line that begins with a marker of a block is not one of a member in shorthand. -/
theorem read?_eq_none_of_marker {shape : Shape} (h : shape.isScoped = true) {m s : Text}
    (hm : OwnerBlock.IsMarker m) (hp : m <+: s) : shape.read? s = none := by
  obtain ⟨r, rfl⟩ := hp
  obtain ⟨y, t, ht, hy, hind⟩ := hm.not_member
  have hrest : (m ++ r).dropWhile isIdentifier = y :: (t ++ r) := by
    rw [List.dropWhile_append, ht]
    rfl
  have hcolon : behindSign? ':' ((m ++ r).dropWhile isIdentifier) = none := by
    rw [hrest]
    exact behindSign?_eq_none hy hind
  cases hi : identifier? (m ++ r) with
  | none =>
    cases shape with
    | shorthandMethod => rw [Shape.read?, hi]; rfl
    | shorthandProperty => rw [Shape.read?, hi]; rfl
    | _ => exact absurd h (by decide)
  | some nr =>
    obtain ⟨n, r'⟩ := nr
    obtain rfl := rest_of_identifier? hi
    cases shape with
    | shorthandMethod =>
      simp only [Shape.read?, hi, Option.bind_eq_bind, Option.bind_some, hcolon, Option.bind_none]
    | shorthandProperty =>
      simp only [Shape.read?, hi, Option.bind_eq_bind, Option.bind_some, hcolon, Option.bind_none]
    | _ => exact absurd h (by decide)

theorem not_marker_of_shape? {code : Text} {shape : Shape} (h : shape? code = some shape)
    (hs : shape.isScoped = true) {m : Text} (hm : OwnerBlock.IsMarker m) :
    ¬ m <+: Text.trim code := by
  intro hp
  have hread := isSome_read?_of_shape? h
  rw [read?_eq_none_of_marker hs hm (Text.prefix_firstLine hp hm.not_newline)] at hread
  exact Bool.false_ne_true hread

end Declaration

end Docblock
