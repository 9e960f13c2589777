/-
# Docblock.Log.Source — who reports, and what is above them.

A part of the program reports under a name, and a name is known once it has been asked for.  Records
go up from a name to the nearest known name above it, and on from there.  Above a name is what
stands in front of each of its dots, seen from the end; of two dots side by side the one in front
does not count.  So a name that begins with a dot need not lie below the root.
-/
import Docblock.Log.Record

namespace Docblock.LogSource

/-- The names above a name that is given from its end, the nearest one first. -/
def aboveReversed : Text → List Text
  | [] => []
  | [_] => []
  | c :: d :: r =>
    if c == '.' then (d :: r).reverse :: aboveReversed r else aboveReversed (d :: r)

/-- The names above a name, the nearest one first. -/
def above (name : Text) : List Text := aboveReversed name.reverse

theorem length_lt_of_mem_aboveReversed {s p : Text} (h : p ∈ aboveReversed s) :
    p.length < s.length := by
  fun_induction aboveReversed s with
  | case1 => exact absurd h List.not_mem_nil
  | case2 => exact absurd h List.not_mem_nil
  | case3 c d r _ ih =>
    rcases List.mem_cons.mp h with rfl | h
    · simp
    · have := ih h
      simp only [List.length_cons]
      omega
  | case4 c d r _ ih =>
    have := ih h
    simp only [List.length_cons] at this ⊢
    omega

theorem length_lt_of_mem_above {name p : Text} (h : p ∈ above name) : p.length < name.length := by
  have := length_lt_of_mem_aboveReversed h
  rwa [List.length_reverse] at this

/-- The nearest known name above a name. -/
def parent? (known : List Text) (name : Text) : Option Text := (above name).find? (known.contains ·)

theorem length_lt_of_parent? {known : List Text} {name p : Text} (h : parent? known name = some p) :
    p.length < name.length :=
  length_lt_of_mem_above (List.mem_of_find?_eq_some h)

/-- Whether records go up from a name to the root. -/
def reachesRoot (known : List Text) (name : Text) : Bool :=
  if name = LogRecord.root then true
  else
    match _h : parent? known name with
    | none => false
    | some p => reachesRoot known p
termination_by name.length
decreasing_by exact length_lt_of_parent? _h

end Docblock.LogSource
