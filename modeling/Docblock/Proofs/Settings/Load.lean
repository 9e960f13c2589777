/-
# Docblock.Proofs.Settings.Load — the settings of a directory.

A directory without a settings file is as good as one whose file says nothing: the usual settings
hold (`load_of_absent`).  Where the file is there and is no link, its text gives the settings
(`load_of_present`).
-/
import Docblock.Proofs.FileTree.Follow
import Docblock.Settings.Load

namespace Docblock.Settings

variable {reader : Yaml.Reader} {w : Workplace} {names : List Text} {es : List (Text × FileTree)}

/-! ## What is at a path -/

theorem mapError_read {file : Path} {os : Octets} (h : w.read file = .ok os) :
    (w.read file).mapError Fault.unreadable = .ok os := by
  rw [h]
  rfl

section

variable {p file : Path} (hf : fileOf w p = .ok file)

include hf

theorem load_of_not_leadsOn (h : w.leadsOn file = false) :
    load reader w p = .ok { root := .ofParts file.parts.dropLast, settings := {} } := by
  unfold load
  rw [hf]
  simp only [bind, Except.bind, h]
  rfl

theorem load_of_unreadable (h : w.leadsOn file = true) {a : Absence}
    (hr : w.read file = .error a) : load reader w p = .error (.unreadable a) := by
  have hread : (w.read file).mapError Fault.unreadable = .error (.unreadable a) := by
    rw [hr]
    rfl
  unfold load
  rw [hf]
  simp only [bind, Except.bind, h, hread]
  rfl

theorem load_of_undecodable (h : w.leadsOn file = true) {os : Octets} (hr : w.read file = .ok os)
    {f : Utf8.Fault} (hd : Utf8.decode os = .error f) :
    load reader w p = .error (.undecodable f) := by
  have hdecode : (Utf8.decode os).mapError Fault.undecodable = .error (.undecodable f) := by
    rw [hd]
    rfl
  unfold load
  rw [hf]
  simp only [bind, Except.bind, h, mapError_read hr, hdecode]
  rfl

theorem load_of_text (h : w.leadsOn file = true) {os : Octets} (hr : w.read file = .ok os)
    {s : Text} (hd : Utf8.decode os = .ok s) :
    load reader w p = (fun settings => { root := .ofParts file.parts.dropLast, settings }) <$>
      ofText reader file.name (unifyNewlines s) := by
  have hdecode : (Utf8.decode os).mapError Fault.undecodable = .ok s := by
    rw [hd]
    rfl
  unfold load
  rw [hf]
  simp only [bind, Except.bind, h, mapError_read hr, hdecode]
  cases ofText reader file.name (unifyNewlines s) <;> rfl

end

/-! ## The settings file of a directory -/

theorem place_of_absent (h : w.files.Leads names (.directory es)) (ha : es.lookup fileName = none) :
    w.place (.ofParts (names ++ [fileName])) = .error .missing := by
  show Workplace.follow w.files Workplace.maxLinks [] (names ++ [fileName]) = _
  have hroot : w.files.at? [] = some w.files := rfl
  rw [Workplace.follow_append _ hroot h]
  exact Workplace.follow_of_absent _ h.at?_eq (by decide) ha []

/-- The settings file of a directory is in it, or would be, unless its name is that of a link. -/
theorem plainPath_of_not_link (h : w.files.Leads names (.directory es))
    (hl : ∀ p, es.lookup fileName ≠ some (.link p)) :
    w.plainPath (.ofParts (names ++ [fileName])) = .ok (.ofParts (names ++ [fileName])) := by
  have hentry : w.files.at? (names ++ [fileName]) = es.lookup fileName := by
    rw [FileTree.at?_append h.at?_eq, FileTree.at?, FileTree.entry?, FileTree.entries]
    cases es.lookup fileName <;> rfl
  have hsettle : Workplace.settle w.files Workplace.maxLinks [] (names ++ [fileName]) =
      .ok (names ++ [fileName]) := by
    refine Workplace.settle_of_not_link _ ?_ fun ns hns p => ?_
    · rw [List.mem_append, not_or]
      exact ⟨h.not_mem_up, by decide⟩
    · rw [List.nil_append]
      rcases List.prefix_concat_iff.mp hns with rfl | hns
      · rw [hentry]
        exact hl p
      · exact h.not_link hns p
  show Path.ofParts <$> Workplace.settle w.files Workplace.maxLinks [] (names ++ [fileName]) = _
  rw [hsettle]
  rfl

theorem fileOf_of_not_link (h : w.files.Leads names (.directory es))
    (hl : ∀ p, es.lookup fileName ≠ some (.link p)) :
    fileOf w (.ofParts names) = .ok (.ofParts (names ++ [fileName])) := by
  have hexpand : w.expand? (.ofParts names) = some (.ofParts names) := by
    unfold Workplace.expand?
    split <;> rfl
  have hdirectory : w.isDirectory (.ofParts names) = true :=
    Workplace.isDirectory_of_leads (p := .ofParts names) h
  have hfile : { Path.ofParts names with parts := (Path.ofParts names).parts ++ [fileName] } =
      Path.ofParts (names ++ [fileName]) := rfl
  unfold fileOf
  rw [hexpand]
  simp only [bind, Except.bind, hdirectory, if_true, hfile, plainPath_of_not_link h hl]
  -- whether the file is there or not, no link is followed to find that out
  cases hf : es.lookup fileName with
  | none => simp only [place_of_absent h hf]
  | some t =>
    have hleads := h.concat (by decide) hf fun p ht => hl p (hf.trans (congrArg some ht))
    have hplace : w.place (.ofParts (names ++ [fileName])) = .ok (names ++ [fileName]) :=
      Workplace.place_of_leads hleads
    simp only [hplace]

/-- In a directory without a settings file the usual settings hold. -/
theorem load_of_absent (h : w.files.Leads names (.directory es)) (ha : es.lookup fileName = none) :
    load reader w (.ofParts names) = .ok { root := .ofParts names, settings := {} } := by
  have hleads : w.leadsOn (.ofParts (names ++ [fileName])) = false := by
    rw [Workplace.leadsOn, Workplace.find, place_of_absent h ha]
    rfl
  have hroot : (Path.ofParts (names ++ [fileName])).parts.dropLast = names :=
    List.dropLast_concat
  have hl : ∀ p, es.lookup fileName ≠ some (.link p) := by
    intro p hp
    rw [ha] at hp
    exact absurd hp (by simp)
  rw [load_of_not_leadsOn (fileOf_of_not_link h hl) hleads, hroot]

/-- What a directory has under the name of a settings file is there for the settings. -/
theorem leadsOn_of_present {t : FileTree} (h : w.files.Leads names (.directory es))
    (hf : es.lookup fileName = some t) (hl : ∀ p, t ≠ .link p) :
    w.files.Leads (names ++ [fileName]) t ∧
      w.leadsOn (.ofParts (names ++ [fileName])) = true ∧
      fileOf w (.ofParts names) = .ok (.ofParts (names ++ [fileName])) := by
  have hleads := h.concat (by decide) hf hl
  refine ⟨hleads, ?_, fileOf_of_not_link h fun p hp => ?_⟩
  · rw [Workplace.leadsOn, Workplace.find_of_leads (p := .ofParts (names ++ [fileName])) hleads]
    rfl
  · rw [hf] at hp
    exact hl p (Option.some.inj hp)

/-- In a directory with a settings file the settings are those that its text gives. -/
theorem load_of_present {os : Octets} {s : Text} (h : w.files.Leads names (.directory es))
    (hf : es.lookup fileName = some (.file os)) (hs : Utf8.decode os = .ok s) :
    load reader w (.ofParts names) =
      (fun settings => { root := .ofParts names, settings }) <$>
        ofText reader fileName (unifyNewlines s) := by
  obtain ⟨hleads, hon, hfile⟩ := leadsOn_of_present h hf fun _ => FileTree.noConfusion
  have hread : w.read (.ofParts (names ++ [fileName])) = .ok os :=
    Workplace.read_of_leads (p := .ofParts (names ++ [fileName])) hleads
  have hroot : (Path.ofParts (names ++ [fileName])).parts.dropLast = names :=
    List.dropLast_concat
  have hname : (Path.ofParts (names ++ [fileName])).name = fileName := by
    show (names ++ [fileName]).getLast?.getD [] = fileName
    rw [List.getLast?_concat, Option.getD_some]
  rw [load_of_text hfile hon hread hs, hroot, hname]

end Docblock.Settings
