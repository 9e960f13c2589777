/-
# Docblock.Proofs.FileTree.Follow — names that lead where they say.

A name on a path may be a link, or `..`, and then the path leads elsewhere.  Names that pass through
directories alone lead to the place that they spell (`follow_append`), so a file below such a place
is read as it is (`read_of_leads`).  Whatever names lead to a place, the place itself is spelled in
this way (`exists_leads_of_follow`).
-/
import Docblock.FileTree.Workplace

namespace Docblock

namespace FileTree

/-- `t.Leads names u` says that the names lead from `t` to `u` through directories alone: none of
them is a link or `..`. -/
inductive Leads : FileTree → List Text → FileTree → Prop
  | nil (t : FileTree) : Leads t [] t
  | cons {es : List (Text × FileTree)} {name : Text} {t u : FileTree} {names : List Text} :
      name ≠ "..".toList → es.lookup name = some t → (∀ p, t ≠ .link p) → Leads t names u →
      Leads (.directory es) (name :: names) u

variable {t u v : FileTree} {names rest : List Text}

theorem at?_append {place : List Text} (h : t.at? place = some u) (rest : List Text) :
    t.at? (place ++ rest) = u.at? rest := by
  induction place generalizing t with
  | nil =>
    obtain rfl := Option.some.inj h
    rfl
  | cons name place ih =>
    rw [at?] at h
    rw [List.cons_append, at?]
    split at h
    · exact ih h
    · exact absurd h (by simp)

theorem Leads.at?_eq (h : t.Leads names u) : t.at? names = some u := by
  induction h with
  | nil t => rfl
  | cons _ hl _ _ ih =>
    rw [at?, entry?, entries, hl]
    exact ih

theorem Leads.not_mem_up (h : t.Leads names u) : "..".toList ∉ names := by
  induction h with
  | nil t => exact List.not_mem_nil
  | cons hn _ _ _ ih => exact List.not_mem_cons_of_ne_of_not_mem (Ne.symm hn) ih

/-- No link is passed on the way to a directory. -/
theorem Leads.not_link {es : List (Text × FileTree)} (h : t.Leads names (.directory es))
    {ns : List Text} (hns : ns <+: names) (p : Path) : t.at? ns ≠ some (.link p) := by
  generalize hu : FileTree.directory es = u at h
  induction h generalizing ns with
  | nil t =>
    rw [List.prefix_nil.mp hns, ← hu, at?]
    exact fun he => FileTree.noConfusion (Option.some.inj he)
  | @cons es' name t u names hn hl ht _ ih =>
    cases ns with
    | nil => exact fun he => FileTree.noConfusion (Option.some.inj he)
    | cons n ns =>
      obtain ⟨rfl, hrest⟩ := List.cons_prefix_cons.mp hns
      rw [at?, entry?, entries, hl]
      exact ih hrest hu

/-- Names that lead to a place lead through all that is above it. -/
theorem Leads.of_prefix (h : t.Leads names u) {ns : List Text} (hns : ns <+: names) :
    ∃ v, t.Leads ns v := by
  induction h generalizing ns with
  | nil t =>
    rw [List.prefix_nil.mp hns]
    exact ⟨t, .nil t⟩
  | @cons es name t u names hn hl hp _ ih =>
    cases ns with
    | nil => exact ⟨.directory es, .nil _⟩
    | cons n ns =>
      obtain ⟨rfl, hrest⟩ := List.cons_prefix_cons.mp hns
      obtain ⟨v, hv⟩ := ih hrest
      exact ⟨v, .cons hn hl hp hv⟩

theorem Leads.append (h : t.Leads names u) (h' : u.Leads rest v) : t.Leads (names ++ rest) v := by
  induction h with
  | nil t => exact h'
  | cons hn hl hp _ ih => exact Leads.cons hn hl hp (ih h')

/-- Names that lead to a directory lead on to what is in it. -/
theorem Leads.concat {es : List (Text × FileTree)} {name : Text} (h : t.Leads names (.directory es))
    (hn : name ≠ "..".toList) (hl : es.lookup name = some u) (hu : ∀ p, u ≠ .link p) :
    t.Leads (names ++ [name]) u :=
  h.append (.cons hn hl hu (.nil u))

end FileTree

namespace Workplace

open FileTree (Leads)

variable {files t u : FileTree} {place names : List Text}

theorem follow_cons (links : Nat) {es : List (Text × FileTree)} {name : Text}
    (hp : files.at? place = some (.directory es)) (hn : name ≠ "..".toList)
    (hl : es.lookup name = some t) (ht : ∀ p, t ≠ .link p) (rest : List Text) :
    follow files links place (name :: rest) = follow files links (place ++ [name]) rest := by
  have hentry : FileTree.entry? name (.directory es) = some t := hl
  rw [follow, hp]
  simp only [FileTree.isDirectory, Bool.not_true, Bool.false_eq_true, if_false, hn, hentry]
  cases t with
  | link p => exact absurd rfl (ht p)
  | file os => rfl
  | directory es => rfl

/-- A name that is not there leads nowhere. -/
theorem follow_of_absent (links : Nat) {es : List (Text × FileTree)} {name : Text}
    (hp : files.at? place = some (.directory es)) (hn : name ≠ "..".toList)
    (hl : es.lookup name = none) (rest : List Text) :
    follow files links place (name :: rest) = .error .missing := by
  have hentry : FileTree.entry? name (.directory es) = none := hl
  rw [follow, hp]
  simp only [FileTree.isDirectory, Bool.not_true, Bool.false_eq_true, if_false, hn, hentry]

/-- Names that lead through directories alone are followed one by one. -/
theorem follow_append (links : Nat) (hp : files.at? place = some t) (h : t.Leads names u)
    (rest : List Text) :
    follow files links place (names ++ rest) = follow files links (place ++ names) rest := by
  induction h generalizing place with
  | nil t => rw [List.nil_append, List.append_nil]
  | @cons es name t u names hn hl ht _ ih =>
    have hat : files.at? (place ++ [name]) = some t := by
      rw [FileTree.at?_append hp, FileTree.at?, FileTree.entry?, FileTree.entries, hl]
      rfl
    rw [List.cons_append, follow_cons links hp hn hl ht, ih hat, List.append_assoc,
      List.singleton_append]

theorem follow_of_leads (links : Nat) (h : files.Leads names u) :
    follow files links [] names = .ok names := by
  have hroot : files.at? [] = some files := rfl
  have := follow_append links hroot h []
  rwa [List.append_nil, List.nil_append, follow] at this

/-- However a place is reached, it is spelled by the names of directories alone. -/
theorem exists_leads_of_follow {links : Nat} {place' : List Text} (h : files.Leads place t)
    (hf : follow files links place names = .ok place') : ∃ u, files.Leads place' u := by
  fun_induction follow files links place names generalizing t with
  | case1 links place => exact ⟨t, Except.ok.inj hf ▸ h⟩
  | case4 links place rest t' _ _ ih =>
    obtain ⟨v, hv⟩ := h.of_prefix (List.dropLast_prefix place)
    exact ih hv hf
  | case7 place name rest t' _ _ _ p links _ ih =>
    split at ih
    · next ha =>
      rw [if_pos ha] at hf
      exact ih (.nil files) hf
    · next ha =>
      rw [if_neg ha] at hf
      exact ih h hf
  | case8 place name rest t' hat hdir hup v links' hlink hlink' hentry ih =>
    -- the entry is no link, whatever number of links may still be followed
    have hv : ∀ p, v ≠ .link p := by
      rintro p rfl
      cases links' with
      | zero => exact hlink p rfl rfl
      | succ k => exact hlink' p k rfl rfl
    have ht : t' = t := by
      rw [h.at?_eq] at hat
      exact (Option.some.inj hat).symm
    subst ht
    cases t' with
    | directory es => exact ih (h.concat hup hentry hv) hf
    | file os => simp [FileTree.isDirectory] at hdir
    | link p => simp [FileTree.isDirectory] at hdir
  | _ => cases hf

/-- A plain path is as it is written when no link is on the way. -/
theorem settle_of_not_link (links : Nat) (hn : "..".toList ∉ names)
    (h : ∀ ns, ns <+: names → ∀ p, files.at? (place ++ ns) ≠ some (.link p)) :
    settle files links place names = .ok (place ++ names) := by
  induction names generalizing place with
  | nil => rw [settle, List.append_nil]
  | cons name names ih =>
    have hne : ¬ name = "..".toList := (List.ne_of_not_mem_cons hn).symm
    have hrest : settle files links (place ++ [name]) names = .ok (place ++ [name] ++ names) := by
      refine ih (List.not_mem_of_not_mem_cons hn) fun ns hns p => ?_
      rw [List.append_assoc]
      exact h (name :: ns) (List.cons_prefix_cons.mpr ⟨rfl, hns⟩) p
    have hhere := h [name] ⟨names, rfl⟩
    rw [settle, if_neg hne]
    · rw [hrest, List.append_assoc, List.singleton_append]
    · exact fun p hp _ => hhere p hp
    · exact fun p k hp _ => hhere p hp

variable {w : Workplace} {p : Path}

theorem place_of_leads (h : w.files.Leads (w.namesOf p) u) : w.place p = .ok (w.namesOf p) :=
  follow_of_leads maxLinks h

theorem find_of_leads (h : w.files.Leads (w.namesOf p) u) : w.find p = .ok u := by
  unfold find
  rw [place_of_leads h]
  simp only [bind, Except.bind, h.at?_eq]

theorem isDirectory_of_leads (h : w.files.Leads (w.namesOf p) u) :
    w.isDirectory p = u.isDirectory := by
  rw [isDirectory, find_of_leads h]

/-- A file that is not behind a link is read as it is. -/
theorem read_of_leads {os : Octets} (h : w.files.Leads (w.namesOf p) (.file os)) :
    w.read p = .ok os := by
  rw [read, find_of_leads h]
  rfl

end Workplace

end Docblock
