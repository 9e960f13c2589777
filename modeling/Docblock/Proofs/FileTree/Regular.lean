/-
# Docblock.Proofs.FileTree.Regular — trees of files and directories.

A tree is regular when it holds neither links nor anything that could not be on a disk: the entries
of a directory have different names, each fit to stand between slashes, and every file holds text.
In such a tree a place is reached by spelling it (`Regular.leads`), and the written paths of two
places differ (`joined_injective`).
-/
import Docblock.Proofs.FileTree.Follow
import Docblock.Proofs.Text.Cutting

namespace Docblock

namespace FileTree

/-- A name that an entry of a directory can have. -/
structure IsName (n : Text) : Prop where
  ne_nil : n ≠ []
  ne_here : n ≠ ['.']
  ne_up : n ≠ "..".toList
  not_slash : '/' ∉ n

instance (n : Text) : Decidable (IsName n) :=
  decidable_of_iff (n ≠ [] ∧ n ≠ ['.'] ∧ n ≠ "..".toList ∧ '/' ∉ n)
    ⟨fun ⟨h₁, h₂, h₃, h₄⟩ => ⟨h₁, h₂, h₃, h₄⟩, fun ⟨h₁, h₂, h₃, h₄⟩ => ⟨h₁, h₂, h₃, h₄⟩⟩

/-- A tree of directories and of files that hold text. -/
inductive Regular : FileTree → Prop
  | file {os : Octets} {s : Text} : Utf8.decode os = .ok s → Regular (.file os)
  | directory {es : List (Text × FileTree)} :
      (es.map (·.1)).Nodup → (∀ e ∈ es, IsName e.1) → (∀ e ∈ es, Regular e.2) →
      Regular (.directory es)

variable {t u : FileTree} {names : List Text} {es : List (Text × FileTree)}

theorem Regular.not_link (h : t.Regular) (p : Path) : t ≠ .link p := by
  rintro rfl
  cases h

/-- An entry is found under its name when no other entry has this name. -/
theorem lookup_eq_some_iff_mem (h : (es.map (·.1)).Nodup) {n : Text} :
    es.lookup n = some t ↔ (n, t) ∈ es := by
  induction es with
  | nil => simp
  | cons e es ih =>
    obtain ⟨m, v⟩ := e
    obtain ⟨hm, hes⟩ := List.nodup_cons.mp h
    rw [List.lookup_cons, List.mem_cons, Prod.mk.injEq]
    by_cases hnm : n = m
    · subst hnm
      have hnot : (n, t) ∉ es := fun hmem => hm (List.mem_map_of_mem (f := (·.1)) hmem)
      simp [hnot, eq_comm]
    · have hbeq : (n == m) = false := beq_eq_false_iff_ne.mpr hnm
      simp [hnm, hbeq, ih hes]

/-- Something is at a place when the first name of the place has an entry and the rest leads on from
there. -/
theorem at?_cons_eq_some_iff {name : Text} :
    t.at? (name :: names) = some u ↔ ∃ v, t.entry? name = some v ∧ v.at? names = some u := by
  rw [at?]
  cases t.entry? name <;> simp

theorem isDirectory_of_at?_cons {name : Text} (h : t.at? (name :: names) = some u) :
    t.isDirectory = true := by
  obtain ⟨v, hv, -⟩ := at?_cons_eq_some_iff.mp h
  cases t with
  | directory => rfl
  | file | link => cases hv

/-- In a regular tree a place is reached by spelling it with names of entries, and what is there is
regular. -/
theorem Regular.leads (h : t.Regular) (hu : t.at? names = some u) :
    t.Leads names u ∧ u.Regular ∧ ∀ n ∈ names, IsName n := by
  induction names generalizing t with
  | nil =>
    obtain rfl := Option.some.inj hu
    exact ⟨.nil t, h, fun n hn => absurd hn List.not_mem_nil⟩
  | cons name names ih =>
    obtain ⟨v, hv, hrest⟩ := at?_cons_eq_some_iff.mp hu
    cases h with
    | file _ => cases hv
    | @directory es hd hn hr =>
      have hmem : (name, v) ∈ es := (lookup_eq_some_iff_mem hd).mp hv
      have hreg := hr _ hmem
      obtain ⟨hleads, hu, hnames⟩ := ih hreg hrest
      exact ⟨.cons (hn _ hmem).ne_up hv hreg.not_link hleads, hu,
        List.forall_mem_cons.mpr ⟨hn _ hmem, hnames⟩⟩

end FileTree

/-- The names of a written path are found again between its slashes. -/
theorem Path.joined_injective {ns ms : List Text} (hns : ns ≠ []) (hms : ms ≠ [])
    (hn : ∀ n ∈ ns, FileTree.IsName n) (hm : ∀ m ∈ ms, FileTree.IsName m)
    (h : joined ns = joined ms) : ns = ms := by
  -- no name holds a slash, so cutting at the slashes undoes the joining
  have hpieces : ∀ {ks : List Text}, ks ≠ [] → (∀ k ∈ ks, FileTree.IsName k) →
      Text.pieces ['/'] (joined ks) = ks := by
    intro ks hne hk
    obtain ⟨k, ks, rfl⟩ := List.exists_cons_of_ne_nil hne
    refine Text.pieces_join (List.cons_ne_nil '/' []) fun q hq hi => (hk q hq).not_slash ?_
    have hmem : '/' ∈ q ++ (['/'] : Text).dropLast := hi.subset List.mem_cons_self
    simpa using hmem
  rw [← hpieces hns hn, h, hpieces hms hm]

end Docblock
