/-
# Docblock.Proofs.Collection.Gather — what a path leads to.

A path that leads to a directory stands for all that is found below it, and every file that is found
is read.  Where no link is on the way, both are what the tree of files says.
-/
import Docblock.Collection
import Docblock.Proofs.FileTree.Follow

namespace Docblock.Search

variable {w : Workplace} {p : Path} {names : List Text}

/-- A file that is not behind a link is read, and its octets are all that matters then. -/
theorem readSource_eq {os : Octets} (h : w.files.Leads (w.namesOf p) (.file os))
    (relative : Text) :
    readSource w p relative = do
      let s ← (Utf8.decode os).mapError (.undecodable p)
      return { path := p, relative, text := unifyNewlines s } := by
  have hread : (w.read p).mapError (SourceFault.unreadable p) = .ok os := by
    rw [Workplace.read_of_leads h]
    rfl
  unfold readSource
  rw [hread]
  rfl

/-- A file that is not behind a link is a source with the text that its octets stand for. -/
theorem readSource_of_leads {os : Octets} {s : Text} (h : w.files.Leads (w.namesOf p) (.file os))
    (hs : Utf8.decode os = .ok s) (relative : Text) :
    readSource w p relative = .ok { path := p, relative, text := unifyNewlines s } := by
  rw [readSource_eq h, hs]
  rfl

/-- A file that is not behind a link is no source when its octets stand for no text. -/
theorem readSource_of_undecodable {os : Octets} {f : Utf8.Fault}
    (h : w.files.Leads (w.namesOf p) (.file os)) (hf : Utf8.decode os = .error f)
    (relative : Text) : readSource w p relative = .error (.undecodable p f) := by
  rw [readSource_eq h, hf]
  rfl

theorem searchDirectory_of_leads (q : Search) {t : FileTree} (h : w.files.Leads names t) :
    searchDirectory q w names =
      (below q (fun ns => w.isDirectory (.ofParts (names ++ ns))) [] t).mapM fun ns =>
        readSource w (.ofParts (names ++ ns)) (Path.joined ns) := by
  unfold searchDirectory
  rw [h.at?_eq]
  rfl

/-- A path to a directory stands for what is found below it. -/
theorem gather_of_leads (q : Search) {given : Text} {es : List (Text × FileTree)}
    (hx : w.expand? (.ofText given) = some p) (h : w.files.Leads (w.namesOf p) (.directory es)) :
    gather q w given = searchDirectory q w (w.namesOf p) := by
  have hd : w.isDirectory p = true := Workplace.isDirectory_of_leads h
  unfold gather
  rw [hx]
  simp only [Workplace.place_of_leads h, hd, if_true]

/-! ## Directories with a single file -/

section

variable {given m : Text} {os : Octets}

/-- In a directory that holds one file, and one that is looked for, this file is read. -/
theorem gather_eq_readSource (q : Search) (hx : w.expand? (.ofText given) = some p)
    (h : w.files.Leads (w.namesOf p) (.directory [(m, .file os)])) (hw : q.wantsFile m m = true) :
    gather q w given = do return [← readSource w (.ofParts (w.namesOf p ++ [m])) m] := by
  have hjoined : Path.joined [m] = m := by rw [Path.joined, Text.join, List.intercalate_singleton]
  have hbelow : ∀ leads, below q leads [] (.directory [(m, .file os)]) = [[m]] := by
    intro leads
    simp [below, filesIn, directoriesIn, sorted, FileTree.isDirectory, hjoined, hw]
  rw [gather_of_leads q hx h, searchDirectory_of_leads q h, hbelow, List.mapM_cons, List.mapM_nil,
    hjoined]
  rfl

/-- In a directory that holds one file, and one that is looked for, this file is found. -/
theorem gather_single (q : Search) (given : Text) {s : Text}
    (hx : w.expand? (.ofText given) = some p)
    (h : w.files.Leads (w.namesOf p) (.directory [(m, .file os)])) (hm : m ≠ "..".toList)
    (hw : q.wantsFile m m = true) (hs : Utf8.decode os = .ok s) :
    gather q w given = .ok
      [{ path := .ofParts (w.namesOf p ++ [m]), relative := m, text := unifyNewlines s }] := by
  have hfile : w.files.Leads (w.namesOf (.ofParts (w.namesOf p ++ [m]))) (.file os) :=
    h.concat hm (by simp) fun _ => FileTree.noConfusion
  rw [gather_eq_readSource q hx h hw, readSource_of_leads hfile hs]
  rfl

/-- Nothing is gathered from a directory when its one file cannot be decoded. -/
theorem gather_undecodable (q : Search) (given : Text) {f : Utf8.Fault}
    (hx : w.expand? (.ofText given) = some p)
    (h : w.files.Leads (w.namesOf p) (.directory [(m, .file os)])) (hm : m ≠ "..".toList)
    (hw : q.wantsFile m m = true) (hf : Utf8.decode os = .error f) :
    gather q w given = .error (.undecodable (.ofParts (w.namesOf p ++ [m])) f) := by
  have hfile : w.files.Leads (w.namesOf (.ofParts (w.namesOf p ++ [m]))) (.file os) :=
    h.concat hm (by simp) fun _ => FileTree.noConfusion
  rw [gather_eq_readSource q hx h hw, readSource_of_undecodable hfile hf]
  rfl

end

end Docblock.Search
