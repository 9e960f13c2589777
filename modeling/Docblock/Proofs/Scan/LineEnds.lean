/-
# Docblock.Proofs.Scan.LineEnds — how lines are ended does not matter.

A line is ended by a line feed, by a carriage return, or by both, and a source may end every line in
another way.  Unifying takes each end for one, line by line from the front.  There is one mixture in
which no reader could tell the lines: a carriage return ends one of them, the next is empty, and a
line feed ends that.  `unifyNewlines_endedText_iff` says that the lines come out as they were
written exactly when this is nowhere the case.  Everything else in a scan reads the unified text, so
two sources with the same lines are scanned alike (`ofSource_endedText`).
-/
import Docblock.Proofs.Text.LineEnd
import Mathlib.Data.List.Chain

namespace Docblock

/-! ## Lines with their ends -/

/-- The ways to end a line. -/
inductive LineEnd where
  /-- A line feed. -/
  | feed
  /-- A carriage return and a line feed. -/
  | pair
  /-- A carriage return. -/
  | lone
  deriving DecidableEq, Repr

/-- The characters at the end of a line. -/
def LineEnd.text : LineEnd → Text
  | feed => ['\n']
  | pair => ['\r', '\n']
  | lone => ['\r']

/-- A line and how it is ended. -/
structure EndedLine where
  line : Text
  ending : LineEnd
  not_newline : '\n' ∉ line
  not_return : '\r' ∉ line
  deriving DecidableEq, Repr

namespace EndedLine

/-- A line with its end, as it is written. -/
def text (l : EndedLine) : Text := l.line ++ l.ending.text

/-- A line can be told from the line behind it: not one line feed alone stands behind a carriage
return alone. -/
def Apart (l l' : EndedLine) : Prop :=
  ¬ (l.ending = .lone ∧ l'.line = [] ∧ l'.ending = .feed)

instance (l l' : EndedLine) : Decidable (l.Apart l') :=
  inferInstanceAs (Decidable (¬ (_ ∧ _ ∧ _)))

end EndedLine

/-- Lines with their ends, one behind the other. -/
def endedText (ls : List EndedLine) : Text := ls.flatMap EndedLine.text

/-! ## Line by line -/

theorem newline_prefix_endedText_iff {ls : List EndedLine} :
    ['\n'] <+: endedText ls ↔ ∃ l ∈ ls.head?, l.line = [] ∧ l.ending = .feed := by
  cases ls with
  | nil => simp [endedText]
  | cons l ls =>
    obtain ⟨line, ending, hnewline, -⟩ := l
    cases line with
    | nil => cases ending <;> simp [endedText, EndedLine.text, LineEnd.text]
    | cons c line =>
      have hc : '\n' ≠ c := fun h => hnewline (h ▸ List.mem_cons_self)
      simp [endedText, EndedLine.text, hc]

/-- A line is told from the lines behind it unless its carriage return takes a line feed along. -/
theorem apart_head?_iff {l : EndedLine} {ls : List EndedLine} :
    (∀ l' ∈ ls.head?, l.Apart l') ↔ ¬ (l.ending = .lone ∧ ['\n'] <+: endedText ls) := by
  rw [newline_prefix_endedText_iff]
  cases ls with
  | nil => simp
  | cons l' ls => simp [EndedLine.Apart]

section

variable (l : EndedLine) (r : Text)

theorem unifyNewlines_line_append :
    unifyNewlines (l.text ++ r) = l.line ++ unifyNewlines (l.ending.text ++ r) := by
  have hseam : ¬ (['\r'] <:+ l.line ∧ ['\n'] <+: l.ending.text ++ r) := by
    intro h
    exact l.not_return (h.1.subset List.mem_cons_self)
  rw [EndedLine.text, List.append_assoc, unifyNewlines_append hseam,
    unifyNewlines_of_not_mem l.not_return]

variable {r}

/-- The end of a line becomes one line feed. -/
theorem unifyNewlines_line (h : ¬ (l.ending = .lone ∧ ['\n'] <+: r)) :
    unifyNewlines (l.text ++ r) = l.line ++ '\n' :: unifyNewlines r := by
  rw [unifyNewlines_line_append]
  apply congrArg (l.line ++ ·)
  cases hending : l.ending with
  | feed => exact unifyNewlines_cons (by decide) r
  | pair => exact unifyNewlines_return_newline r
  | lone => exact unifyNewlines_return fun hp => h ⟨hending, hp⟩

/-- A carriage return that takes the line feed behind it along ends no line of its own. -/
theorem unifyNewlines_line_of_newline (h : l.ending = .lone ∧ ['\n'] <+: r) :
    unifyNewlines (l.text ++ r) = l.line ++ unifyNewlines r := by
  obtain ⟨hending, r, rfl⟩ := h
  rw [unifyNewlines_line_append, hending]
  apply congrArg (l.line ++ ·)
  show unifyNewlines ('\r' :: '\n' :: r) = unifyNewlines ('\n' :: r)
  rw [unifyNewlines_return_newline, unifyNewlines_cons (by decide)]

end

/-- Lines are never taken apart: a line end may be missed, but none is found that is not there. -/
theorem length_unifyNewlines_endedText_le (ls : List EndedLine) :
    (unifyNewlines (endedText ls)).length ≤ ((ls.map (·.line)).flatMap (· ++ ['\n'])).length := by
  induction ls with
  | nil => simp [endedText]
  | cons l ls ih =>
    show (unifyNewlines (l.text ++ endedText ls)).length ≤
      (l.line ++ ['\n'] ++ (ls.map (·.line)).flatMap (· ++ ['\n'])).length
    by_cases h : l.ending = .lone ∧ ['\n'] <+: endedText ls
    · rw [unifyNewlines_line_of_newline l h, List.length_append, List.length_append,
        List.length_append]
      omega
    · rw [unifyNewlines_line l h, List.length_append, List.length_cons, List.length_append,
        List.length_append, List.length_singleton]
      omega

/-- The lines of a source come out as they were written, each ended by one line feed, exactly when
each can be told from the next. -/
theorem unifyNewlines_endedText_iff (ls : List EndedLine) :
    unifyNewlines (endedText ls) = (ls.map (·.line)).flatMap (· ++ ['\n']) ↔
      ls.IsChain EndedLine.Apart := by
  induction ls with
  | nil => simp [endedText]
  | cons l ls ih =>
    rw [List.isChain_cons, apart_head?_iff]
    show unifyNewlines (l.text ++ endedText ls) =
      l.line ++ ['\n'] ++ (ls.map (·.line)).flatMap (· ++ ['\n']) ↔ _
    by_cases h : l.ending = .lone ∧ ['\n'] <+: endedText ls
    · refine iff_of_false (fun heq => ?_) fun hchain => hchain.1 h
      rw [unifyNewlines_line_of_newline l h, List.append_assoc,
        List.append_cancel_left_eq] at heq
      -- the lines behind would have to give one line feed more than they can
      have hle := length_unifyNewlines_endedText_le ls
      rw [heq, List.length_append, List.length_singleton] at hle
      omega
    · rw [unifyNewlines_line l h, List.append_assoc, List.append_cancel_left_eq,
        List.singleton_append, List.cons.injEq, ih]
      simp [h]

namespace Scan

/-- **How lines are ended does not matter.**  Lines that can be told apart are unified to the same
lines, whatever ends each of them, so sources with the same lines have the same scan, with all that
is reported, and the same owner blocks.  A text is unified once and for all, no carriage return is
left in it, and the two parts of a text are unified apart from each other exactly when the seam does
not fall into a line end. -/
theorem ofSource_endedText :
    (∀ ls : List EndedLine,
      unifyNewlines (endedText ls) = (ls.map (·.line)).flatMap (· ++ ['\n']) ↔
        ls.IsChain EndedLine.Apart) ∧
    (∀ (st : Style) (ls ls' : List EndedLine),
      ls.IsChain EndedLine.Apart → ls'.IsChain EndedLine.Apart →
      ls.map (·.line) = ls'.map (·.line) →
        ofSource st (endedText ls) = ofSource st (endedText ls') ∧
        OwnerBlock.inSource (unifyNewlines (endedText ls)) =
          OwnerBlock.inSource (unifyNewlines (endedText ls'))) ∧
    (∀ s, unifyNewlines (unifyNewlines s) = unifyNewlines s) ∧
    (∀ s, '\r' ∉ unifyNewlines s) ∧
    ∀ a b, unifyNewlines (a ++ b) = unifyNewlines a ++ unifyNewlines b ↔
      ¬ (['\r'] <:+ a ∧ ['\n'] <+: b) := by
  refine ⟨unifyNewlines_endedText_iff, ?_, unifyNewlines_unifyNewlines,
    return_not_mem_unifyNewlines, fun _ _ => unifyNewlines_append_iff⟩
  intro st ls ls' hls hls' hlines
  have hunified : unifyNewlines (endedText ls) = unifyNewlines (endedText ls') := by
    rw [(unifyNewlines_endedText_iff ls).mpr hls, (unifyNewlines_endedText_iff ls').mpr hls',
      hlines]
  refine ⟨?_, congrArg OwnerBlock.inSource hunified⟩
  unfold ofSource ofSourceWith
  rw [hunified]

/-- A member of an owner block, with line ends of all three kinds and an empty line between a
carriage return and a line end of two characters. -/
def mixedLines : List EndedLine :=
  [⟨"A.prototype = \x7b".toList, .pair, by decide, by decide⟩,
    ⟨"/** x".toList, .lone, by decide, by decide⟩, ⟨[], .pair, by decide, by decide⟩,
    ⟨" */".toList, .lone, by decide, by decide⟩, ⟨"m: 1".toList, .feed, by decide, by decide⟩,
    ⟨"\x7d;".toList, .lone, by decide, by decide⟩]

theorem ofSource_endedText_mixed :
    ∃ ls ls' : List EndedLine, ls.IsChain EndedLine.Apart ∧ ls'.IsChain EndedLine.Apart ∧
      ls.map (·.line) = ls'.map (·.line) ∧
      endedText ls = "A.prototype = \x7b\r\n/** x\r\r\n */\rm: 1\n\x7d;\r".toList ∧
      endedText ls' = "A.prototype = \x7b\n/** x\n\n */\nm: 1\n\x7d;\n".toList ∧
      ofSource .untouched (endedText ls) = ofSource .untouched (endedText ls') ∧
      (ofSource .untouched (endedText ls)).comments.map (fun k =>
        (k.code, k.declaration.map (·.scope))) =
          [(some "m: 1\n\x7d;".toList, some (some ⟨some "A".toList, .ofInstance⟩))] := by
  have hmixed : mixedLines.IsChain EndedLine.Apart := by decide
  have hfeeds : (mixedLines.map fun l => { l with ending := .feed }).IsChain EndedLine.Apart := by
    decide
  obtain ⟨-, halike, -⟩ := ofSource_endedText
  obtain ⟨hscan, -⟩ := halike .untouched mixedLines _ hmixed hfeeds rfl
  exact ⟨mixedLines, _, hmixed, hfeeds, rfl, rfl, rfl, hscan, by decide +kernel⟩

end Scan

end Docblock
