/-
# Docblock.Proofs.FileTree.Writing — what changes when a file is written.

A file can be written where one stands already, and in a directory under a name that has no entry.
Writing it changes the content at this one place: every other file keeps what is in it, and links
and directories stay where they are (`content?_put`, `kept_put`).  Where a path leads for a file to
be written depends on links and directories only, so it is the same before and afterwards
(`destination_put_eq_ok_iff`).
-/
import Docblock.Proofs.FileTree.Follow

namespace Docblock

namespace FileTree

/-- What is in the file at a place; nothing when no file is there. -/
def content? (t : FileTree) (place : List Text) : Option Octets :=
  match t.at? place with
  | some (.file os) => some os
  | _ => none

/-- A file can be written at a place: one is there, or there is none and its directory is. -/
inductive Writable : FileTree → List Text → Prop
  | file (os : Octets) : Writable (.file os) []
  | absent {es : List (Text × FileTree)} {name : Text} (hname : es.lookup name = none) :
      Writable (.directory es) [name]
  | inside {es : List (Text × FileTree)} {name : Text} {t : FileTree} {names : List Text}
      (hname : es.lookup name = some t) (hinside : Writable t names) :
      Writable (.directory es) (name :: names)

/-- What may be where a file is written: nothing, or a file. -/
def Free (u : Option FileTree) : Prop := ∀ t, u = some t → ∃ os, t = file os

theorem free_none : Free none := fun _ h => absurd h (by simp)

theorem free_file (os : Octets) : Free (some (file os)) := fun _ h => ⟨os, (Option.some.inj h).symm⟩

/-- What is at a place before and after files are written in the tree. -/
inductive Kept : Option FileTree → Option FileTree → Prop
  | free {u v : Option FileTree} (hu : Free u) (hv : Free v) : Kept u v
  | directory (es es' : List (Text × FileTree)) :
      Kept (some (.directory es)) (some (.directory es'))
  | link (p : Path) : Kept (some (.link p)) (some (.link p))

namespace Kept

variable {u v : Option FileTree}

theorem refl (u : Option FileTree) : Kept u u := by
  match u with
  | none => exact .free free_none free_none
  | some (.file os) => exact .free (free_file os) (free_file os)
  | some (.directory es) => exact .directory es es
  | some (.link p) => exact .link p

theorem symm (h : Kept u v) : Kept v u := by
  cases h with
  | free hu hv => exact .free hv hu
  | directory es es' => exact .directory es' es
  | link p => exact .link p

theorem free_right (h : Kept u v) (hu : Free u) : Free v := by
  cases h with
  | free _ hv => exact hv
  | directory es es' => exact absurd (hu _ rfl) (by simp)
  | link p => exact absurd (hu _ rfl) (by simp)

theorem exists_directory {es : List (Text × FileTree)} (h : Kept (some (.directory es)) v) :
    ∃ es', v = some (.directory es') := by
  cases h with
  | free hu => exact absurd (hu _ rfl) (by simp)
  | directory _ es' => exact ⟨es', rfl⟩

theorem eq_link {p : Path} (h : Kept (some (.link p)) v) : v = some (.link p) := by
  cases h with
  | free hu => exact absurd (hu _ rfl) (by simp)
  | link => rfl

end Kept

/-! ## Entries -/

theorem lookup_cons_ite (n m : Text) (t : FileTree) (es : List (Text × FileTree)) :
    ((n, t) :: es).lookup m = if m = n then some t else es.lookup m := by
  rw [List.lookup_cons]
  by_cases h : m = n
  · rw [if_pos h, beq_iff_eq.mpr h]
  · rw [if_neg h, beq_eq_false_iff_ne.mpr h]

theorem lookup_setEntry (name m : Text) (u : FileTree) (es : List (Text × FileTree)) :
    (setEntry name u es).lookup m = if m = name then some u else es.lookup m := by
  induction es with
  | nil => rw [setEntry, lookup_cons_ite]
  | cons e es ih =>
    obtain ⟨n, t⟩ := e
    rw [setEntry]
    by_cases hn : n = name
    · rw [if_pos hn, lookup_cons_ite, lookup_cons_ite, hn]
      by_cases hm : m = name
      · rw [if_pos hm, if_pos hm]
      · rw [if_neg hm, if_neg hm, if_neg hm]
    · rw [if_neg hn, lookup_cons_ite, lookup_cons_ite, ih]
      by_cases hm : m = n
      · have hne : m ≠ name := fun h => hn (hm.symm.trans h)
        rw [if_pos hm, if_pos hm, if_neg hne]
      · rw [if_neg hm, if_neg hm]

variable {es : List (Text × FileTree)} {name m : Text} {t u : FileTree} {names place q : List Text}

theorem at?_directory_cons (h : es.lookup m = some t) (q : List Text) :
    (directory es).at? (m :: q) = t.at? q := by
  rw [at?, entry?, entries, h]

theorem at?_directory_absent (h : es.lookup m = none) (q : List Text) :
    (directory es).at? (m :: q) = none := by
  rw [at?, entry?, entries, h]

/-- Under another name of a directory nothing changes. -/
theorem at?_put_ne (hm : m ≠ name) (u : FileTree) (names q : List Text) :
    (put u (name :: names) (directory es)).at? (m :: q) = (directory es).at? (m :: q) := by
  have hentry : entry? m (put u (name :: names) (directory es)) = es.lookup m := by
    rw [put, entry?, entries, entries, lookup_setEntry, if_neg hm]
  rw [at?, hentry, at?, entry?, entries]

/-- Under the name itself the change goes on. -/
theorem at?_put_entry (h : es.lookup name = some t) (u : FileTree) (names q : List Text) :
    (put u (name :: names) (directory es)).at? (name :: q) = (put u names t).at? q := by
  have hentry : entry? name (directory es) = some t := h
  rw [put, hentry, Option.getD_some]
  exact at?_directory_cons (by rw [entries, lookup_setEntry, if_pos rfl]) q

/-- A name without an entry gets one. -/
theorem at?_put_absent (h : es.lookup name = none) (os : Octets) (q : List Text) :
    (put (.file os) [name] (directory es)).at? (name :: q) = (file os).at? q := by
  have hentry : entry? name (directory es) = none := h
  rw [put, hentry, put]
  exact at?_directory_cons (by rw [entries, lookup_setEntry, if_pos rfl]) q

/-! ## Contents -/

theorem content?_congr (h : t.at? place = u.at? q) : t.content? place = u.content? q := by
  rw [content?, content?, h]

theorem content?_eq_none (h : t.at? place = none) : t.content? place = none := by
  rw [content?, h]

theorem content?_file (os : Octets) (q : List Text) :
    (file os).content? q = if q = [] then some os else none := by
  cases q <;> rfl

/-- Only the content at the place of the file changes. -/
theorem content?_put (h : Writable t place) (os : Octets) (q : List Text) :
    (put (.file os) place t).content? q = if q = place then some os else t.content? q := by
  induction h generalizing q with
  | file os' =>
    rw [put, content?_file, content?_file]
    split <;> rfl
  | @absent es name hname =>
    cases q with
    | nil => rfl
    | cons m q =>
      by_cases hm : m = name
      · subst hm
        rw [content?_congr (at?_put_absent hname os q), content?_file,
          content?_eq_none (at?_directory_absent hname q)]
        simp only [List.cons.injEq, true_and]
      · have hne : m :: q ≠ [name] := fun h => hm (List.cons.inj h).1
        rw [content?_congr (at?_put_ne hm _ _ q), if_neg hne]
  | @inside es name u names hname _ ih =>
    cases q with
    | nil => rfl
    | cons m q =>
      by_cases hm : m = name
      · subst hm
        rw [content?_congr (at?_put_entry hname _ names q), ih,
          content?_congr (at?_directory_cons hname q)]
        simp only [List.cons.injEq, true_and]
      · have hne : m :: q ≠ name :: names := fun h => hm (List.cons.inj h).1
        rw [content?_congr (at?_put_ne hm _ _ q), if_neg hne]

/-- Directories and links stay where they are. -/
theorem kept_put (h : Writable t place) (os : Octets) (q : List Text) :
    Kept (t.at? q) ((put (.file os) place t).at? q) := by
  induction h generalizing q with
  | file os' =>
    cases q with
    | nil => exact .free (free_file os') (free_file os)
    | cons m q => exact .free free_none free_none
  | @absent es name hname =>
    cases q with
    | nil => exact .directory es _
    | cons m q =>
      by_cases hm : m = name
      · subst hm
        rw [at?_put_absent hname, at?_directory_absent hname]
        cases q with
        | nil => exact .free free_none (free_file os)
        | cons n q => exact .free free_none free_none
      · rw [at?_put_ne hm]
        exact .refl _
  | @inside es name u names hname _ ih =>
    cases q with
    | nil => exact .directory es _
    | cons m q =>
      by_cases hm : m = name
      · subst hm
        rw [at?_put_entry hname, at?_directory_cons hname]
        exact ih q
      · rw [at?_put_ne hm]
        exact .refl _

/-! ## Where files can be written -/

theorem Writable.append (h : t.at? place = some u) (hu : u.Writable q) :
    t.Writable (place ++ q) := by
  induction place generalizing t with
  | nil =>
    obtain rfl := Option.some.inj h
    exact hu
  | cons name place ih =>
    cases t with
    | directory es =>
      rw [at?, entry?, entries] at h
      split at h
      · next v hv => exact .inside hv (ih h)
      · exact absurd h (by simp)
    | file os => exact absurd h (by simp [at?, entry?, entries])
    | link p => exact absurd h (by simp [at?, entry?, entries])

theorem writable_of_content? {os : Octets} (h : t.content? place = some os) : t.Writable place := by
  rw [content?] at h
  split at h
  · next os' hat =>
    have := Writable.append hat (.file os')
    rwa [List.append_nil] at this
  · exact absurd h (by simp)

theorem at?_singleton (es : List (Text × FileTree)) (name : Text) :
    (directory es).at? [name] = es.lookup name := by
  cases hl : es.lookup name with
  | none => exact at?_directory_absent hl []
  | some v => exact at?_directory_cons hl []

/-- Two trees in which the same directories and links are. -/
def SameWays (t u : FileTree) : Prop := ∀ q, Kept (t.at? q) (u.at? q)

theorem SameWays.symm (h : SameWays t u) : SameWays u t := fun q => (h q).symm

/-- A directory is a directory in both, and so on with its entries. -/
theorem SameWays.exists_directory (h : SameWays t u) {d : List Text}
    (hd : t.at? d = some (directory es)) :
    ∃ es', u.at? d = some (directory es') ∧ ∀ name, Kept (es.lookup name) (es'.lookup name) := by
  obtain ⟨es', hd'⟩ := (hd ▸ h d).exists_directory
  refine ⟨es', hd', fun name => ?_⟩
  have := h (d ++ [name])
  rwa [at?_append hd, at?_append hd', at?_singleton, at?_singleton] at this

end FileTree

namespace Workplace

open FileTree (Writable)

variable {files : FileTree} {place names spot out : List Text} {links : Nat}

/-! A directory is passed in four ways: upwards, into a directory, by a link, and at the end. -/

section Step

variable {es : List (Text × FileTree)} {name : Text} (hp : files.at? place = some (.directory es))

include hp

theorem destination_up (links : Nat) (rest : List Text) :
    destination files links place ("..".toList :: rest) =
      destination files links place.dropLast rest := by
  rw [destination, hp]
  rfl

theorem destination_inside {es' : List (Text × FileTree)} (links : Nat) (hn : name ≠ "..".toList)
    (hl : es.lookup name = some (.directory es')) (rest : List Text) :
    destination files links place (name :: rest) =
      destination files links (place ++ [name]) rest := by
  have hentry : FileTree.entry? name (.directory es) = some (.directory es') := hl
  rw [destination, hp]
  simp only [FileTree.isDirectory, Bool.not_true, Bool.false_eq_true, if_false, hn, hentry]

theorem destination_link {p : Path} (links : Nat) (hn : name ≠ "..".toList)
    (hl : es.lookup name = some (.link p)) (rest : List Text) :
    destination files (links + 1) place (name :: rest) =
      destination files links (if p.absolute then [] else place) (p.parts ++ rest) := by
  have hentry : FileTree.entry? name (.directory es) = some (.link p) := hl
  rw [destination, hp]
  simp only [FileTree.isDirectory, Bool.not_true, Bool.false_eq_true, if_false, hn, hentry]

theorem destination_last (links : Nat) (hn : name ≠ "..".toList)
    (hfree : FileTree.Free (es.lookup name)) :
    destination files links place [name] = .ok (place ++ [name]) := by
  rw [destination, hp]
  cases hl : es.lookup name with
  | none =>
    have hentry : FileTree.entry? name (.directory es) = none := hl
    simp only [FileTree.isDirectory, Bool.not_true, Bool.false_eq_true, if_false, hn, hentry,
      List.isEmpty_nil, if_true]
  | some t =>
    obtain ⟨os, rfl⟩ := hfree t hl
    have hentry : FileTree.entry? name (.directory es) = some (.file os) := hl
    simp only [FileTree.isDirectory, Bool.not_true, Bool.false_eq_true, if_false, hn, hentry,
      List.isEmpty_nil, if_true]

end Step

theorem exists_directory {t : FileTree} (h : ¬(!t.isDirectory) = true) :
    ∃ es, t = .directory es := by
  cases t with
  | directory es => exact ⟨es, rfl⟩
  | file os => exact absurd rfl h
  | link p => exact absurd rfl h

/-- Where names lead for writing, a file can be written. -/
theorem writable_of_destination (h : destination files links place names = .ok out) :
    files.Writable out := by
  fun_induction destination files links place names with
  | case4 _ _ _ _ _ _ ih => exact ih h
  | case5 links place name rest t hat hdir _ hentry =>
    obtain ⟨es, rfl⟩ := exists_directory hdir
    rw [← Except.ok.inj h]
    exact Writable.append hat (.absent hentry)
  | case7 links place name rest t hat hdir _ os hentry =>
    obtain ⟨es, rfl⟩ := exists_directory hdir
    rw [← Except.ok.inj h]
    exact Writable.append hat (.inside hentry (.file os))
  | case9 _ _ _ _ _ _ _ _ _ _ ih => exact ih h
  | case11 place name rest t _ _ _ p links _ ih =>
    split at ih
    · next ha =>
      rw [if_pos ha] at h
      exact ih h
    · next ha =>
      rw [if_neg ha] at h
      exact ih h
  | _ => cases h

/-- Where names lead for writing depends on directories and links only. -/
theorem destination_of_sameWays {files' : FileTree} (hways : files.SameWays files')
    (h : destination files links place names = .ok out) :
    destination files' links place names = .ok out := by
  fun_induction destination files links place names with
  | case4 links place rest t hat hdir ih =>
    obtain ⟨es, rfl⟩ := exists_directory hdir
    obtain ⟨es', hat', -⟩ := hways.exists_directory hat
    rw [destination_up hat']
    exact ih h
  | case5 links place name rest t hat hdir hn hentry hrest =>
    obtain ⟨es, rfl⟩ := exists_directory hdir
    obtain ⟨es', hat', hkept⟩ := hways.exists_directory hat
    have hl : es.lookup name = none := hentry
    have hfree : FileTree.Free (es.lookup name) := hl ▸ FileTree.free_none
    rw [List.isEmpty_iff.mp hrest, ← h]
    exact destination_last hat' links hn ((hkept name).free_right hfree)
  | case7 links place name rest t hat hdir hn os' hentry hrest =>
    obtain ⟨es, rfl⟩ := exists_directory hdir
    obtain ⟨es', hat', hkept⟩ := hways.exists_directory hat
    have hl : es.lookup name = some (.file os') := hentry
    have hfree : FileTree.Free (es.lookup name) := hl ▸ FileTree.free_file os'
    rw [List.isEmpty_iff.mp hrest, ← h]
    exact destination_last hat' links hn ((hkept name).free_right hfree)
  | case9 place name rest t hat hdir hn entries links hentry ih =>
    obtain ⟨es, rfl⟩ := exists_directory hdir
    obtain ⟨es', hat', hkept⟩ := hways.exists_directory hat
    have hl : es.lookup name = some (.directory entries) := hentry
    obtain ⟨entries', hl'⟩ := (hl ▸ hkept name).exists_directory
    rw [destination_inside hat' links hn hl']
    exact ih h
  | case11 place name rest t hat hdir hn p links hentry ih =>
    obtain ⟨es, rfl⟩ := exists_directory hdir
    obtain ⟨es', hat', hkept⟩ := hways.exists_directory hat
    have hl : es.lookup name = some (.link p) := hentry
    rw [destination_link hat' links hn (hl ▸ hkept name).eq_link]
    split at ih
    · next ha =>
      rw [if_pos ha] at h ⊢
      exact ih h
    · next ha =>
      rw [if_neg ha] at h ⊢
      exact ih h
  | _ => cases h

/-- Writing a file does not change where names lead for writing. -/
theorem destination_put_eq_ok_iff (hw : files.Writable spot) (os : Octets) :
    destination (FileTree.put (.file os) spot files) links place names = .ok out ↔
      destination files links place names = .ok out :=
  have hways : files.SameWays (FileTree.put (.file os) spot files) := FileTree.kept_put hw os
  ⟨destination_of_sameWays hways.symm, destination_of_sameWays hways⟩

/-! ## Behind what is there -/

variable {w : Workplace} {p : Path}

theorem files_append (place : List Text) (os : Octets) (w : Workplace) :
    (w.append place os).files =
      FileTree.put (.file ((w.files.content? place).getD [] ++ os)) place w.files := by
  have hold : (match w.files.at? place with
      | some (.file old) => old
      | _ => []) = (w.files.content? place).getD [] := by
    unfold FileTree.content?
    split <;> rfl
  rw [← hold]
  rfl

/-- A file grows at its end, and no other file grows. -/
theorem content?_append (h : w.files.Writable spot) (os : Octets) (q : List Text) :
    (w.append spot os).files.content? q =
      if q = spot then some ((w.files.content? q).getD [] ++ os) else w.files.content? q := by
  rw [files_append, FileTree.content?_put h]
  split
  · next hq => rw [hq]
  · rfl

/-- A path is opened at the same place after something was written. -/
theorem writingPlace_append_eq_ok_iff (hw : w.files.Writable spot) (os : Octets) :
    (w.append spot os).writingPlace p = .ok out ↔ w.writingPlace p = .ok out := by
  rw [writingPlace, target, files_append]
  exact destination_put_eq_ok_iff hw _

theorem writable_of_writingPlace (h : w.writingPlace p = .ok out) : w.files.Writable out :=
  writable_of_destination h

end Workplace

end Docblock
