/-
# Docblock.Text.Basic — texts, and the ways of cutting them.

A text is the list of its code points.  Everything in this library that reads text walks such a
list, and every position it reports is a number of list members, so one notion of length serves
throughout.  The operations here cut a text at a marker, glue pieces together again, and trim an
end; they know nothing about what the text says.
-/
namespace Docblock

/-- A text is the list of its code points. -/
abbrev Text := List Char

instance : Coe String Text := ⟨String.toList⟩

namespace Text

/-! ## Beginnings and ends -/

/-- The text without `head`, when it begins so. -/
def after? (head s : Text) : Option Text := head.isPrefixOf? s

/-- Whether the text begins with `head`. -/
def beginsWith (head s : Text) : Bool := head.isPrefixOf s

/-- Whether the text ends with `tail`. -/
def endsWith (tail s : Text) : Bool := tail.isSuffixOf s

/-- The text without `tail`, when it ends so. -/
def before? (tail s : Text) : Option Text := tail.isSuffixOf? s

theorem eq_append_of_after? {head s r : Text} (h : after? head s = some r) : s = head ++ r := by
  induction head generalizing s with
  | nil => exact Option.some.inj h
  | cons x head ih =>
    cases s with
    | nil => exact absurd (show none = some r from h) (Option.some_ne_none r).symm
    | cons y s =>
      have h : (if x == y then after? head s else none) = some r := h
      split at h
      · next hxy => rw [ih h, beq_iff_eq.mp hxy, List.cons_append]
      · exact absurd h.symm (Option.some_ne_none r)

/-! ## Cutting at a marker -/

/-- Put a character in front of the first of two parts. -/
def push {α : Type} (c : Char) (p : Text × α) : Text × α := (c :: p.1, p.2)

/-- Cut `s` at the first place where `marker` stands: what is before it, and what is after it when
it occurs at all. -/
def cut (marker : Text) : Text → Text × Option Text
  | [] => ([], if marker.isEmpty then some [] else none)
  | c :: r =>
    match after? marker (c :: r) with
    | some rest => ([], some rest)
    | none => push c (cut marker r)

theorem cut_length_le (marker s r : Text) (h : (cut marker s).2 = some r) :
    r.length + marker.length ≤ s.length := by
  induction s with
  | nil =>
    cases marker with
    | nil => simp_all [cut]
    | cons m ms => simp [cut] at h
  | cons c s ih =>
    unfold cut at h
    split at h
    · next rest hp =>
      simp only [Option.some.injEq] at h
      subst h
      rw [eq_append_of_after? hp, List.length_append]
      omega
    · have := ih h
      simp only [List.length_cons]
      omega

/-- Whether `marker` stands anywhere in the text. -/
def has (marker : Text) (s : Text) : Bool := (cut marker s).2.isSome

/-- All pieces of a text between the places where `marker` stands, from left to right.  An empty
marker cuts nothing. -/
def pieces (marker : Text) (s : Text) : List Text :=
  match (cut marker s) with
  | (a, none) => [a]
  | (a, some r) => if r.length < s.length then a :: pieces marker r else [s]
termination_by s.length

/-- The pieces with `glue` between neighbours. -/
def join (glue : Text) (ps : List Text) : Text := glue.intercalate ps

/-- Write `new` wherever `old` stands, from left to right. -/
def replace (old new : Text) (s : Text) : Text := join new (pieces old s)

/-- The lines of a text: the pieces between its line feeds, so there is always at least one. -/
def lines (s : Text) : List Text := s.splitOn '\n'

/-- The lines put together again. -/
def unlines (ls : List Text) : Text := join ['\n'] ls

/-- The line of the text that is read first, and whether a line feed ends it. -/
def firstLine (s : Text) : Text := s.takeWhile (· != '\n')

/-! ## Trimming -/

/-- Remove the longest end of the text all of whose members satisfy `p`. -/
def dropEndWhile (p : Char → Bool) (s : Text) : Text := (s.reverse.dropWhile p).reverse

/-- Remove members that satisfy `p` from both ends. -/
def dropAround (p : Char → Bool) (s : Text) : Text := dropEndWhile p (s.dropWhile p)

/-- A text of `n` equal members. -/
def fill (n : Nat) (c : Char) : Text := List.replicate n c

end Text

end Docblock
