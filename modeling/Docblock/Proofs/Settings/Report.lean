/-
# Docblock.Proofs.Settings.Report — which faults of a settings file are reported.

A settings file may hold anything.  That its text is no document, that the document is no mapping,
and that it names an output format that is not known, is told; every other fault ends the run
without a word.  Main statement: whatever the documents are read with, all faults of what is at a
path are told exactly when nothing is there, or a file in UTF-8 with a text from which no value but
a sound one can come about (`load_reports_iff`).
-/
import Docblock.Proofs.Settings.Load

namespace Docblock.Settings

/-! ## Numbers that are too long -/

/-- A number that is too long to be written out is still some text. -/
theorem exists_asText?_of_not_writable {v : Yaml.Value} (h : v.writable = false) :
    ∃ c s, v.asText? = some (c :: s) := by
  cases v with
  | int i =>
    have hlong : Numeral.maxDigits < (Numeral.ofNat i.natAbs).length :=
      Nat.lt_of_not_le (of_decide_eq_false h)
    have hne : Numeral.ofInt i ≠ [] := by
      unfold Numeral.ofInt
      split
      · exact List.cons_ne_nil _ _
      · intro hnil
        rw [hnil] at hlong
        exact Nat.not_lt_zero _ hlong
    obtain ⟨c, s, hcs⟩ := List.exists_cons_of_ne_nil hne
    exact ⟨c, s, congrArg some hcs⟩
  | _ => cases h

theorem formatOf_eq_hugeNumber_iff {v : Yaml.Value} :
    formatOf v = .error .hugeNumber ↔ v.writable = false := by
  unfold formatOf
  constructor
  · intro h
    split at h
    · cases h
    · cases h
    · split at h
      · next hw => simpa using hw
      · dsimp only at h
        split at h <;> cases h
  · intro h
    obtain ⟨c, s, hcs⟩ := exists_asText?_of_not_writable h
    rw [hcs]
    simp [h]

theorem textsOf_eq_error_iff {v : Yaml.Value} {m : Misfit} :
    textsOf v = .error m ↔ m = .hugeNumber ∧ ∃ i ∈ v.items, i.writable = false := by
  unfold textsOf
  constructor
  · intro h
    split at h
    · cases h
    · next hw =>
      cases h
      simpa using hw
  · rintro ⟨rfl, i, hi, hw⟩
    rw [if_neg]
    intro hall
    have := List.all_eq_true.mp hall i hi
    rw [hw] at this
    cases this

/-- A number too long to be written out stands where a text is needed: as the output format, or in
one of the lists, when the output format is one. -/
def HoldsHuge (v : Yaml.Value) : Prop :=
  (under "output" v).writable = false ∨
    (∃ f, formatOf (under "output" v) = .ok f) ∧
      ((∃ i ∈ (under "extensions" v).items, i.writable = false) ∨
        ∃ i ∈ (under "exclude_paths" v).items, i.writable = false)

theorem ofMapping_eq_hugeNumber_iff {v : Yaml.Value} :
    ofMapping v = .error .hugeNumber ↔ HoldsHuge v := by
  rw [HoldsHuge, ← formatOf_eq_hugeNumber_iff]
  unfold ofMapping
  cases hf : formatOf (under "output" v) with
  | error m => simp [bind, Except.bind]
  | ok f =>
    -- the lists are read only behind an output format that is one
    cases he : textsOf (under "extensions" v) with
    | error m =>
      obtain ⟨rfl, hhuge⟩ := textsOf_eq_error_iff.mp he
      exact iff_of_true rfl (.inr ⟨⟨f, rfl⟩, .inl hhuge⟩)
    | ok extensions =>
      cases hx : textsOf (under "exclude_paths" v) with
      | error m =>
        obtain ⟨rfl, hhuge⟩ := textsOf_eq_error_iff.mp hx
        exact iff_of_true rfl (.inr ⟨⟨f, rfl⟩, .inr hhuge⟩)
      | ok excludePaths =>
        refine iff_of_false (fun h => by cases h) ?_
        rintro (h | ⟨-, h | h⟩)
        · cases h
        · exact absurd (he.symm.trans (textsOf_eq_error_iff.mpr ⟨rfl, h⟩)) (by simp)
        · exact absurd (hx.symm.trans (textsOf_eq_error_iff.mpr ⟨rfl, h⟩)) (by simp)

/-- A value gives no settings for a number that is too long when it is a mapping that holds one. -/
theorem ofValue_eq_hugeNumber_iff {v : Yaml.Value} :
    ofValue v = .error .hugeNumber ↔ ∃ ps, v = .map ps ∧ HoldsHuge v := by
  unfold ofValue
  split
  · next hnothing =>
    refine iff_of_false (fun h => by cases h) ?_
    rintro ⟨ps, rfl, h⟩
    cases ps with
    | nil =>
      -- the empty mapping holds nothing
      rcases h with h | ⟨-, ⟨i, hi, -⟩ | ⟨i, hi, -⟩⟩
      · cases h
      · exact List.not_mem_nil hi
      · exact List.not_mem_nil hi
    | cons p ps => cases hnothing
  · cases v with
    | map ps =>
      exact ofMapping_eq_hugeNumber_iff.trans ⟨fun h => ⟨ps, rfl, h⟩, fun ⟨_, _, h⟩ => h⟩
    | _ =>
      refine iff_of_false (fun h => by cases h) ?_
      rintro ⟨ps, h, -⟩
      cases h

/-! ## Texts -/

variable {reader : Yaml.Reader}

/-- All faults of a text are told: it is blank, or the reader finds no document in it, or what it
says holds no number that is too long. -/
def Sound (reader : Yaml.Reader) (s : Text) : Prop :=
  Text.blank s = true ∨ (∃ f, reader s = .error f ∧ f.ofForm = true) ∨
    ∃ v, reader s = .ok v ∧ ∀ ps, v = .map ps → ¬ HoldsHuge v

/-- Of the faults of a value all are told but that of a number. -/
theorem isSome_message?_misfit_iff {m : Misfit} :
    (Fault.misfit m).message?.isSome = true ↔ m ≠ .hugeNumber := by
  cases m <;> simp [Fault.message?]

theorem ofText_reports_iff {name s : Text} :
    (∀ f, ofText reader name s = .error f → f.message?.isSome = true) ↔ Sound reader s := by
  unfold ofText Sound
  split
  · next hb => exact iff_of_true (fun f h => by cases h) (.inl hb)
  · next hb =>
    cases hd : reader s with
    | error g =>
      cases hform : g.ofForm with
      | true =>
        refine iff_of_true (fun f h => ?_) (.inr (.inl ⟨g, rfl, hform⟩))
        cases h
        rw [if_pos hform]
        rfl
      | false =>
        have htold : (Fault.noSuchValue g).message?.isSome = false := rfl
        refine iff_of_false (fun h => ?_) ?_
        · have := h (.noSuchValue g) (congrArg Except.error (if_neg (by simp [hform])))
          exact Bool.false_ne_true (htold.symm.trans this)
        · rintro (h | ⟨g', hg, hform'⟩ | ⟨v, hv, -⟩)
          · exact hb h
          · cases hg
            exact Bool.false_ne_true (hform.symm.trans hform')
          · cases hv
    | ok v =>
      -- of a value only the fault of a number is not told
      have hvalue : (∀ f, (ofValue v).mapError Fault.misfit = .error f →
          f.message?.isSome = true) ↔ ofValue v ≠ .error .hugeNumber := by
        cases hv : ofValue v with
        | error m =>
          rw [Ne, Except.error.injEq, ← Ne, ← isSome_message?_misfit_iff]
          exact ⟨fun h => h _ rfl, fun h f hf => by cases hf; exact h⟩
        | ok l => exact iff_of_true (fun f h => by cases h) (fun h => by cases h)
      rw [Ne, ofValue_eq_hugeNumber_iff] at hvalue
      refine hvalue.trans ⟨fun h => .inr (.inr ⟨v, rfl, fun ps hps hh => h ⟨ps, hps, hh⟩⟩), ?_⟩
      rintro (h | ⟨g, hg, -⟩ | ⟨v', hv', h⟩)
      · exact absurd h hb
      · cases hg
      · cases hv'
        rintro ⟨ps, hps, hh⟩
        exact h ps hps hh

/-! ## Files -/

variable {w : Workplace} {p file : Path}

/-- All faults of what is at a path are told: nothing is there, or a file with a sound text. -/
def Reports (reader : Yaml.Reader) (w : Workplace) (file : Path) : Prop :=
  w.leadsOn file = true →
    ∃ os s, w.read file = .ok os ∧ Utf8.decode os = .ok s ∧ Sound reader (unifyNewlines s)

/-- What is told of loading settings is told of what is at their path, and of its text. -/
theorem load_reports_iff (hf : fileOf w p = .ok file) :
    (∀ f, load reader w p = .error f → f.message?.isSome = true) ↔ Reports reader w file := by
  unfold Reports
  cases hon : w.leadsOn file with
  | false =>
    rw [load_of_not_leadsOn hf hon]
    exact iff_of_true (fun f h => by cases h) (fun h => by cases h)
  | true =>
    cases hr : w.read file with
    | error a =>
      rw [load_of_unreadable hf hon hr]
      refine iff_of_false (fun h => Bool.false_ne_true (h _ rfl)) fun h => ?_
      obtain ⟨os, s, hos, -⟩ := h rfl
      cases hos
    | ok os =>
      cases hd : Utf8.decode os with
      | error g =>
        rw [load_of_undecodable hf hon hr hd]
        refine iff_of_false (fun h => Bool.false_ne_true (h _ rfl)) fun h => ?_
        obtain ⟨os', s, hos, hs, -⟩ := h rfl
        cases hos
        cases hd.symm.trans hs
      | ok s =>
        have hload : (∀ f, load reader w p = .error f → f.message?.isSome = true) ↔
            ∀ f, ofText reader file.name (unifyNewlines s) = .error f →
              f.message?.isSome = true := by
          rw [load_of_text hf hon hr hd]
          cases ofText reader file.name (unifyNewlines s) with
          | error f =>
            exact ⟨fun h g hg => h g (by cases hg; rfl), fun h g hg => h g (by cases hg; rfl)⟩
          | ok l => exact iff_of_true (fun f h => by cases h) (fun f h => by cases h)
        rw [hload, ofText_reports_iff]
        constructor
        · exact fun h _ => ⟨os, s, rfl, hd, h⟩
        · intro h
          obtain ⟨os', s', hos, hs, hsound⟩ := h rfl
          cases hos
          cases hd.symm.trans hs
          exact hsound

/-- All faults of what a directory has under the name of a settings file are told when it is a file
with a sound text. -/
theorem reports_iff_of_present {names : List Text} {es : List (Text × FileTree)} {t : FileTree}
    (h : w.files.Leads names (.directory es)) (ht : es.lookup fileName = some t)
    (hl : ∀ p, t ≠ .link p) :
    Reports reader w (.ofParts (names ++ [fileName])) ↔
      ∃ os s, t = .file os ∧ Utf8.decode os = .ok s ∧ Sound reader (unifyNewlines s) := by
  obtain ⟨hleads, hon, -⟩ := leadsOn_of_present h ht hl
  unfold Reports
  rw [hon]
  cases t with
  | file os =>
    rw [Workplace.read_of_leads (p := .ofParts (names ++ [fileName])) hleads]
    constructor
    · intro h
      obtain ⟨os', s, hos, hs⟩ := h rfl
      cases hos
      exact ⟨os, s, rfl, hs⟩
    · rintro ⟨os', s, hos, hs⟩ -
      cases hos
      exact ⟨os, s, rfl, hs⟩
  | directory es' =>
    have hread : w.read (.ofParts (names ++ [fileName])) = .error .isADirectory := by
      rw [Workplace.read, Workplace.find_of_leads (p := .ofParts (names ++ [fileName])) hleads]
      rfl
    rw [hread]
    refine iff_of_false (fun h => ?_) ?_
    · obtain ⟨os, s, hos, -⟩ := h rfl
      cases hos
    · rintro ⟨os, s, hos, -⟩
      cases hos
  | link p => exact absurd rfl (hl p)

/-- Whatever reads the documents, nothing is told of a settings file that is not in UTF-8. -/
theorem not_load_tells :
    ¬ ∃ reader : Yaml.Reader, ∀ t : FileTree, (∀ p, t ≠ .link p) → ∀ f,
      load reader ⟨.directory [(fileName, t)], [], []⟩ (.ofParts []) = .error f →
        f.message?.isSome = true := by
  rintro ⟨reader, h⟩
  have hl : ∀ p, FileTree.file [0xFF] ≠ .link p := fun _ => FileTree.noConfusion
  have hroot : (FileTree.directory [(fileName, .file [0xFF])]).Leads []
      (.directory [(fileName, .file [0xFF])]) := .nil _
  obtain ⟨hleads, hon, hfile⟩ := leadsOn_of_present
    (w := ⟨.directory [(fileName, .file [0xFF])], [], []⟩) hroot rfl hl
  have hread := Workplace.read_of_leads (p := .ofParts ([] ++ [fileName])) hleads
  exact Bool.false_ne_true (h _ hl _ (load_of_undecodable hfile hon hread rfl))

end Docblock.Settings
