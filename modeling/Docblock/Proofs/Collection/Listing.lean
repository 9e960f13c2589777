/-
# Docblock.Proofs.Collection.Listing — what a search finds, and in which order.

A search goes down from a directory and turns back where a directory is left out, so what is left
out above a file is settled before the file is looked at.  Read from the file, this says that the
file itself and every directory on the way to it are looked for (`mem_below_iff`).  The order is one
on lists of names (`Precedes`): the files of a directory stand before everything that is below its
directories.  Since that order is strict, it and the set of what is found fix the whole list.  Main
statement: a path to a directory is gathered as exactly the files that are sought, each once and in
that order, and more patterns only take files away (`collect_directory`).
-/
import Docblock.Proofs.Collection.Gather
import Docblock.Proofs.FileTree.Regular
import Mathlib.Data.List.Sort

namespace Docblock

namespace Search

/-! ## The order of a listing -/

/-- A text comes before another in the order of code points. -/
def ComesBefore (a b : Text) : Prop := List.Lex (fun x y : Char => x < y) a b

theorem ComesBefore.asymm {a b : Text} (h : ComesBefore a b) : ¬ ComesBefore b a :=
  List.lt_asymm h

theorem ComesBefore.not_trans {a b c : Text} (h : ¬ ComesBefore b a) (h' : ¬ ComesBefore c b) :
    ¬ ComesBefore c a :=
  @List.le_trans Char _ _ _ _ a b c h h'

theorem ComesBefore.of_not {a b : Text} (h : ¬ ComesBefore b a) (hne : a ≠ b) :
    ComesBefore a b :=
  ((@List.le_iff_lt_or_eq Char _ _ _ _ a b).mp h).resolve_right hne

/-- The order in which files are listed, each by its names from the directory of the search. -/
inductive Precedes : List Text → List Text → Prop
  /-- Files of one directory go by their names. -/
  | files {a b : Text} : ComesBefore a b → Precedes [a] [b]
  /-- A file of a directory stands before all that is below the directories in it. -/
  | own (a b : Text) {bs : List Text} : bs ≠ [] → Precedes [a] (b :: bs)
  /-- What is below one directory stands before what is below the next. -/
  | directories {a b : Text} {as bs : List Text} :
      ComesBefore a b → as ≠ [] → bs ≠ [] → Precedes (a :: as) (b :: bs)
  | within (a : Text) {as bs : List Text} : Precedes as bs → Precedes (a :: as) (a :: bs)

namespace Precedes

variable {as bs : List Text}

theorem ne_nil (h : Precedes as bs) : as ≠ [] ∧ bs ≠ [] := by
  cases h <;> exact ⟨List.cons_ne_nil _ _, List.cons_ne_nil _ _⟩

/-- The order does not depend on where a search began. -/
theorem prior (ns : List Text) (h : Precedes as bs) : Precedes (ns ++ as) (ns ++ bs) := by
  induction ns with
  | nil => exact h
  | cons n ns ih => exact .within n ih

theorem asymm (h : Precedes as bs) : ¬ Precedes bs as := by
  induction h with
  | files hab =>
    intro h
    cases h with
    | files hba => exact hab.asymm hba
    | own _ _ h => exact h rfl
    | directories _ h => exact h rfl
    | within _ h => exact h.ne_nil.1 rfl
  | own a b hb =>
    intro h
    cases h with
    | files => exact hb rfl
    | own => exact hb rfl
    | directories _ _ h => exact h rfl
    | within _ h => exact h.ne_nil.2 rfl
  | directories hab ha hb =>
    intro h
    cases h with
    | files => exact ha rfl
    | own => exact hb rfl
    | directories hba => exact hab.asymm hba
    | within => exact hab.asymm hab
  | within a hab ih =>
    intro h
    cases h with
    | files => exact hab.ne_nil.1 rfl
    | own => exact hab.ne_nil.2 rfl
    | directories haa => exact haa.asymm haa
    | within _ h => exact ih h

instance : Std.Asymm Precedes := ⟨fun _ _ => asymm⟩

end Precedes

/-! ## Names in order -/

section

variable {α : Type} {xs : List (Text × α)}

theorem mem_sorted {x : Text × α} : x ∈ sorted xs ↔ x ∈ xs :=
  (List.mergeSort_perm xs _).mem_iff

theorem inOrder_iff {a b : Text} : inOrder a b = true ↔ ¬ ComesBefore b a := by
  rw [inOrder, Bool.not_eq_true', List.lex_eq_false_iff_not_lex]
  simp only [decide_eq_true_eq]
  exact Iff.rfl

/-- Things with different names stand one behind the other. -/
theorem pairwise_sorted (h : (xs.map (·.1)).Nodup) :
    (sorted xs).Pairwise fun x y => ComesBefore x.1 y.1 := by
  -- sorting only gives that no name stands before an earlier one; that no two are equal is `h`
  have hle : (sorted xs).Pairwise fun x y => inOrder x.1 y.1 = true := by
    apply List.pairwise_mergeSort
    · intro x y z hxy hyz
      rw [inOrder_iff] at hxy hyz ⊢
      exact ComesBefore.not_trans hxy hyz
    · intro x y
      rw [Bool.or_eq_true, inOrder_iff, inOrder_iff]
      by_cases h : ComesBefore y.1 x.1
      · exact .inr h.asymm
      · exact .inl h
  have hne : (sorted xs).Pairwise fun x y => x.1 ≠ y.1 := by
    have hnodup : ((sorted xs).map (·.1)).Nodup :=
      (((List.mergeSort_perm xs _).map (·.1)).nodup_iff).mpr h
    exact List.pairwise_map.mp hnodup
  refine (hle.and hne).imp fun {x y} hxy => ?_
  exact ComesBefore.of_not (inOrder_iff.mp hxy.1) hxy.2

end

/-! ## One directory -/

section

variable (q : Search) (leads : List Text → Bool) (prior : List Text)
  {es : List (Text × FileTree)}

/-- The files of a directory without links are those that are looked for. -/
theorem filesIn_eq (h : ∀ e ∈ es, ∀ p, e.2 ≠ .link p) :
    filesIn q leads prior es =
      (es.filter fun e => !e.2.isDirectory && q.wantsFile e.1 (Path.joined (prior ++ [e.1]))).map
        fun e => (e.1, prior ++ [e.1]) := by
  induction es with
  | nil => rfl
  | cons e es ih =>
    obtain ⟨name, t⟩ := e
    obtain ⟨hlink, hes⟩ := List.forall_mem_cons.mp h
    cases t with
    | link p => exact absurd rfl (hlink p)
    | file os =>
      cases hw : q.wantsFile name (Path.joined (prior ++ [name])) <;>
        simp [filesIn, FileTree.isDirectory, hw, ih hes]
    | directory es' => simp [filesIn, FileTree.isDirectory, ih hes]

/-- The directories of a directory that are searched are those that are looked for. -/
theorem directoriesIn_eq :
    directoriesIn q leads prior es =
      (es.filter fun e =>
        e.2.isDirectory && q.wantsDirectory e.1 (Path.joined (prior ++ [e.1]))).map
        fun e => (e.1, below q leads (prior ++ [e.1]) e.2) := by
  induction es with
  | nil => rfl
  | cons e es ih =>
    obtain ⟨name, t⟩ := e
    rw [directoriesIn, ih]
    cases hw : t.isDirectory && q.wantsDirectory name (Path.joined (prior ++ [name])) <;> simp [hw]

end

/-! ## A whole tree -/

/-- Going down by these names from where `prior` has led, the search turns back nowhere: each
directory on the way is searched, and the file at the end is looked for. -/
def Reaches (q : Search) (prior : List Text) : List Text → Prop
  | [] => False
  | [n] => q.wantsFile n (Path.joined (prior ++ [n])) = true
  | n :: m :: ms =>
    q.wantsDirectory n (Path.joined (prior ++ [n])) = true ∧ Reaches q (prior ++ [n]) (m :: ms)

section

variable {q : Search} {leads : List Text → Bool} {prior names : List Text} {t : FileTree}
  {es : List (Text × FileTree)}

theorem Reaches.ne_nil (h : q.Reaches prior names) : names ≠ [] := by
  rintro rfl
  exact h

/-- What is below a directory is its own files and what is below its directories. -/
theorem mem_below_directory_iff (h : ∀ e ∈ es, ∀ p, e.2 ≠ .link p) {ns : List Text} :
    ns ∈ below q leads prior (.directory es) ↔
      (∃ e ∈ es, e.2.isDirectory = false ∧ q.wantsFile e.1 (Path.joined (prior ++ [e.1])) = true ∧
        ns = prior ++ [e.1]) ∨
      ∃ e ∈ es, e.2.isDirectory = true ∧
        q.wantsDirectory e.1 (Path.joined (prior ++ [e.1])) = true ∧
        ns ∈ below q leads (prior ++ [e.1]) e.2 := by
  rw [below, List.mem_append, List.mem_map, List.mem_flatMap, filesIn_eq q leads prior h,
    directoriesIn_eq]
  simp only [mem_sorted, List.mem_map, List.mem_filter, Bool.and_eq_true, Bool.not_eq_true']
  constructor
  · rintro (⟨-, ⟨e, ⟨he, hf, hw⟩, rfl⟩, rfl⟩ | ⟨-, ⟨e, ⟨he, hd, hw⟩, rfl⟩, hns⟩)
    · exact Or.inl ⟨e, he, hf, hw, rfl⟩
    · exact Or.inr ⟨e, he, hd, hw, hns⟩
  · rintro (⟨e, he, hf, hw, rfl⟩ | ⟨e, he, hd, hw, hns⟩)
    · exact Or.inl ⟨_, ⟨e, ⟨he, hf, hw⟩, rfl⟩, rfl⟩
    · exact Or.inr ⟨_, ⟨e, ⟨he, hd, hw⟩, rfl⟩, hns⟩

/-- What is found below a regular directory is what the search reaches in it. -/
theorem mem_below_iff (h : t.Regular) (hd : t.isDirectory = true) {ns : List Text} :
    ns ∈ below q leads prior t ↔
      ∃ names, ns = prior ++ names ∧ (∃ os, t.at? names = some (.file os)) ∧
        q.Reaches prior names := by
  -- over the tree: `prior` has led to the directory, so what is below is told from its entries
  induction h generalizing prior ns with
  | file => cases hd
  | @directory es hnodup hname hreg ih =>
    have hat : ∀ {n names u}, (FileTree.directory es).at? (n :: names) = some u ↔
        ∃ v, (n, v) ∈ es ∧ v.at? names = some u := by
      intro n names u
      rw [FileTree.at?_cons_eq_some_iff]
      exact exists_congr fun v => and_congr_left' (FileTree.lookup_eq_some_iff_mem hnodup)
    rw [mem_below_directory_iff fun e he => (hreg e he).not_link]
    constructor
    · rintro (⟨⟨n, u⟩, he, hu, hw, rfl⟩ | ⟨⟨n, u⟩, he, hu, hw, hns⟩)
      · cases hreg _ he with
        | @file os => exact ⟨[n], rfl, ⟨os, hat.mpr ⟨_, he, rfl⟩⟩, hw⟩
        | directory => cases hu
      · obtain ⟨names, rfl, ⟨os, hos⟩, hr⟩ := (ih _ he hu).mp hns
        refine ⟨n :: names, by simp, ⟨os, hat.mpr ⟨u, he, hos⟩⟩, ?_⟩
        obtain ⟨m, ms, rfl⟩ := List.exists_cons_of_ne_nil hr.ne_nil
        exact ⟨hw, hr⟩
    · rintro ⟨names, rfl, ⟨os, hos⟩, hr⟩
      obtain ⟨n, names, rfl⟩ := List.exists_cons_of_ne_nil hr.ne_nil
      obtain ⟨u, he, hos⟩ := hat.mp hos
      -- the entry is the file itself, or a directory on the way to it
      cases names with
      | nil =>
        obtain rfl := Option.some.inj hos
        exact Or.inl ⟨_, he, rfl, hr, rfl⟩
      | cons m ms =>
        obtain ⟨hw, hr⟩ := hr
        have hu : u.isDirectory = true := FileTree.isDirectory_of_at?_cons hos
        exact Or.inr ⟨_, he, hu, hw, (ih _ he hu).mpr ⟨m :: ms, by simp, ⟨os, hos⟩, hr⟩⟩

/-- What is found below an entry of a directory begins with the name of the entry. -/
theorem exists_of_mem_directoriesIn (h : ∀ e ∈ es, e.2.Regular) {x : Text × List (List Text)}
    (hx : x ∈ sorted (directoriesIn q leads prior es)) {ns : List Text} (hns : ns ∈ x.2) :
    ∃ names, names ≠ [] ∧ ns = prior ++ x.1 :: names := by
  rw [mem_sorted, directoriesIn_eq] at hx
  obtain ⟨⟨n, u⟩, he, rfl⟩ := List.mem_map.mp hx
  obtain ⟨he, hw⟩ := List.mem_filter.mp he
  have hu : u.isDirectory = true := (Bool.and_eq_true_iff.mp hw).1
  obtain ⟨names, rfl, -, hr⟩ := (mem_below_iff (h _ he) hu).mp hns
  exact ⟨names, hr.ne_nil, by simp⟩

/-- What is found below a regular directory is listed in order. -/
theorem pairwise_below (h : t.Regular) : (below q leads prior t).Pairwise Precedes := by
  induction h generalizing prior with
  | file => exact .nil
  | @directory es hnodup hname hreg ih =>
    have hlink : ∀ e ∈ es, ∀ p, e.2 ≠ .link p := fun e he => (hreg e he).not_link
    have hnames : ∀ {P : Text × FileTree → Bool} {α : Type} (f : Text × FileTree → α),
        (((es.filter P).map fun e => (e.1, f e)).map (·.1)).Nodup := by
      intro P α f
      rw [List.map_map]
      exact hnodup.sublist (List.filter_sublist.map _)
    have hfile : ∀ x ∈ sorted (filesIn q leads prior es), x.2 = prior ++ [x.1] := by
      intro x hx
      rw [mem_sorted, filesIn_eq q leads prior hlink] at hx
      obtain ⟨e, -, rfl⟩ := List.mem_map.mp hx
      rfl
    have hfiles : (sorted (filesIn q leads prior es)).Pairwise fun x y => ComesBefore x.1 y.1 := by
      apply pairwise_sorted
      rw [filesIn_eq q leads prior hlink]
      exact hnames _
    have hdirectories : (sorted (directoriesIn q leads prior es)).Pairwise
        fun x y => ComesBefore x.1 y.1 := by
      apply pairwise_sorted
      rw [directoriesIn_eq]
      exact hnames _
    rw [below, List.pairwise_append, List.pairwise_map, List.pairwise_flatMap]
    refine ⟨?_, ⟨?_, ?_⟩, ?_⟩
    · -- two files of the directory
      refine hfiles.imp_of_mem fun {x y} hx hy hxy => ?_
      rw [hfile x hx, hfile y hy]
      exact (Precedes.files hxy).prior prior
    · -- two files below one of its directories
      intro x hx
      rw [mem_sorted, directoriesIn_eq] at hx
      obtain ⟨e, he, rfl⟩ := List.mem_map.mp hx
      exact ih e (List.mem_filter.mp he).1
    · -- two files below two of its directories
      refine hdirectories.imp_of_mem fun {x y} hx hy hxy ns hns ms hms => ?_
      obtain ⟨names, hne, rfl⟩ := exists_of_mem_directoriesIn hreg hx hns
      obtain ⟨names', hne', rfl⟩ := exists_of_mem_directoriesIn hreg hy hms
      exact (Precedes.directories hxy hne hne').prior prior
    · -- a file of the directory and one below its directories
      intro ns hns ms hms
      obtain ⟨x, hx, rfl⟩ := List.mem_map.mp hns
      obtain ⟨y, hy, hms⟩ := List.mem_flatMap.mp hms
      obtain ⟨names, hne, rfl⟩ := exists_of_mem_directoriesIn hreg hy hms
      rw [hfile x hx]
      exact (Precedes.own x.1 y.1 hne).prior prior

end

/-! ## What is sought -/

/-- The file at `names`, counted from the directory of the search, is sought: its name has one of
the ends that are looked for, whatever the case of the letters, and neither the file nor a directory
on the way to it is left out. -/
structure Sought (extensions patterns names : List Text) : Prop where
  ending : ∃ e ∈ extensions, Text.lower e <:+ Text.lower (names.getLast?.getD [])
  file : ∀ r ∈ patterns.filterMap Exclusion.ofText?, r.leavesOut (Path.joined names) false = false
  above : ∀ ns n, ns ++ [n] <+: names.dropLast → n ∉ neverSearched ∧
    ∀ r ∈ patterns.filterMap Exclusion.ofText?, r.leavesOut (Path.joined (ns ++ [n])) true = false

section

variable {q : Search} {prior names extensions patterns : List Text}

/-- More patterns leave no fewer files out. -/
theorem Sought.of_subset {more : List Text} (h : patterns ⊆ more)
    (hs : Sought extensions more names) : Sought extensions patterns names := by
  have hrules : ∀ r ∈ patterns.filterMap Exclusion.ofText?,
      r ∈ more.filterMap Exclusion.ofText? := by
    intro r hr
    obtain ⟨x, hx, hxr⟩ := List.mem_filterMap.mp hr
    exact List.mem_filterMap.mpr ⟨x, h hx, hxr⟩
  exact
    { ending := hs.ending
      file := fun r hr => hs.file r (hrules r hr)
      above := fun ns n hns =>
        ⟨(hs.above ns n hns).1, fun r hr => (hs.above ns n hns).2 r (hrules r hr)⟩ }

theorem excludes_of_eq_false {path : Text} {isDirectory : Bool} :
    (Search.of extensions patterns).excludes path isDirectory = false ↔
      ∀ r ∈ patterns.filterMap Exclusion.ofText?, r.leavesOut path isDirectory = false := by
  show (patterns.filterMap Exclusion.ofText?).any _ = false ↔ _
  rw [List.any_eq_false]
  simp only [Bool.not_eq_true]

theorem wantsFile_of {n path : Text} :
    (Search.of extensions patterns).wantsFile n path = true ↔
      (∃ e ∈ extensions, Text.lower e <:+ Text.lower n) ∧
        ∀ r ∈ patterns.filterMap Exclusion.ofText?, r.leavesOut path false = false := by
  rw [wantsFile, Bool.and_eq_true, Bool.not_eq_true', excludes_of_eq_false, Search.of]
  simp [Text.endsWith]

theorem wantsDirectory_of {n path : Text} :
    (Search.of extensions patterns).wantsDirectory n path = true ↔
      n ∉ neverSearched ∧
        ∀ r ∈ patterns.filterMap Exclusion.ofText?, r.leavesOut path true = false := by
  rw [wantsDirectory, Bool.and_eq_true, Bool.not_eq_true', Bool.not_eq_true',
    excludes_of_eq_false]
  simp

/-- What is reached, told from its last name: the file is looked for, and so is every directory
above it. -/
theorem reaches_iff :
    q.Reaches prior names ↔
      names ≠ [] ∧
      q.wantsFile (names.getLast?.getD []) (Path.joined (prior ++ names)) = true ∧
      ∀ ns n, ns ++ [n] <+: names.dropLast →
        q.wantsDirectory n (Path.joined (prior ++ (ns ++ [n]))) = true := by
  induction names generalizing prior with
  | nil => simp [Reaches]
  | cons n names ih =>
    cases names with
    | nil => simp [Reaches]
    | cons m ms =>
      have hlast : (n :: m :: ms).getLast?.getD [] = (m :: ms).getLast?.getD [] := by
        rw [List.getLast?_cons_cons]
      have hprior : ∀ ls : List Text, prior ++ [n] ++ ls = prior ++ n :: ls := by
        intro ls
        rw [List.append_assoc, List.singleton_append]
      rw [Reaches, ih, hlast, hprior, List.dropLast_cons_cons]
      constructor
      · rintro ⟨hn, -, hfile, habove⟩
        refine ⟨List.cons_ne_nil _ _, hfile, fun ns k hns => ?_⟩
        cases ns with
        | nil =>
          obtain ⟨rfl, -⟩ := List.cons_prefix_cons.mp hns
          exact hn
        | cons l ns =>
          obtain ⟨rfl, hrest⟩ := List.cons_prefix_cons.mp hns
          have := habove ns k hrest
          rwa [hprior] at this
      · rintro ⟨-, hfile, habove⟩
        refine ⟨habove [] n (List.cons_prefix_cons.mpr ⟨rfl, List.nil_prefix⟩),
          List.cons_ne_nil _ _, hfile, fun ns k hns => ?_⟩
        rw [hprior]
        exact habove (n :: ns) k (List.cons_prefix_cons.mpr ⟨rfl, hns⟩)

/-- A search reaches what is sought. -/
theorem reaches_of_iff (hne : names ≠ []) :
    (Search.of extensions patterns).Reaches [] names ↔ Sought extensions patterns names := by
  rw [reaches_iff]
  simp only [List.nil_append, wantsFile_of, wantsDirectory_of]
  constructor
  · rintro ⟨-, ⟨hending, hfile⟩, habove⟩
    exact ⟨hending, hfile, habove⟩
  · rintro ⟨hending, hfile, habove⟩
    exact ⟨hne, ⟨hending, hfile⟩, habove⟩

end

/-! ## A directory that is gathered -/

/-- The source in a file below the directory at `place`, in which the tree `t` is. -/
def sourceAt (place : List Text) (t : FileTree) (names : List Text) : SourceFile where
  path := .ofParts (place ++ names)
  relative := Path.joined names
  text :=
    match t.at? names with
    | some (.file os) =>
      match Utf8.decode os with
      | .ok s => unifyNewlines s
      | .error _ => []
    | _ => []

section

variable {w : Workplace} {given : Text} {p : Path} {place : List Text} {t : FileTree}

theorem mapM_of_forall_ok {α β ε : Type} {f : α → Except ε β} {g : α → β} {as : List α}
    (h : ∀ a ∈ as, f a = .ok (g a)) : as.mapM f = .ok (as.map g) := by
  induction as with
  | nil => rfl
  | cons a as ih =>
    obtain ⟨ha, has⟩ := List.forall_mem_cons.mp h
    rw [List.mapM_cons, ha, ih has]
    rfl

/-- Every file of a regular tree is read as a source. -/
theorem readSource_sourceAt (hleads : w.files.Leads place t) (hr : t.Regular) {names : List Text}
    {os : Octets} (hos : t.at? names = some (.file os)) :
    readSource w (.ofParts (place ++ names)) (Path.joined names) =
      .ok (sourceAt place t names) := by
  obtain ⟨hdown, hfile, -⟩ := hr.leads hos
  cases hfile with
  | @file _ s hs =>
    have hpath : w.files.Leads (w.namesOf (.ofParts (place ++ names))) (.file os) :=
      hleads.append hdown
    rw [readSource_of_leads hpath hs, sourceAt, hos]
    simp only [hs]

/-- A path to a regular directory is gathered as what is found below the directory. -/
theorem collect_eq_map_below (hx : w.expand? (.ofText given) = some p)
    (hp : w.place p = .ok place) (ht : w.files.at? place = some t) (hd : t.isDirectory = true)
    (hr : t.Regular) (q : Search) :
    ∃ leads, q.collect w [given] = .ok ((below q leads [] t).map (sourceAt place t)) := by
  obtain ⟨u, hleads⟩ := Workplace.exists_leads_of_follow (.nil w.files) hp
  obtain rfl : u = t := by
    rw [hleads.at?_eq] at ht
    exact Option.some.inj ht
  have hdirectory : w.isDirectory p = true := by
    rw [Workplace.isDirectory, Workplace.find, hp]
    simp only [bind, Except.bind, ht, hd]
  have hgather : q.gather w given = searchDirectory q w place := by
    unfold gather
    rw [hx]
    simp only [hp, hdirectory, if_true]
  refine ⟨fun ns => w.isDirectory (.ofParts (place ++ ns)), ?_⟩
  rw [collect, List.mapM_cons, List.mapM_nil, hgather, searchDirectory_of_leads q hleads,
    mapM_of_forall_ok (g := sourceAt place u)]
  · simp [bind, Except.bind, pure, Except.pure]
  · intro names hnames
    obtain ⟨_, rfl, ⟨os, hos⟩, -⟩ := (mem_below_iff hr hd).mp hnames
    exact readSource_sourceAt hleads hr hos

/-- A path to a directory is gathered as the files below it that are sought and nothing else, each
of them once.  The files of a directory come first, in the order of their names, and then what is
below each of its directories, in the order of their names.  With more patterns some of these files
may be missing; the others stay in their order. -/
theorem collect_directory (hx : w.expand? (.ofText given) = some p) (hp : w.place p = .ok place)
    (ht : w.files.at? place = some t) (hd : t.isDirectory = true) (hr : t.Regular)
    (extensions patterns : List Text) :
    ∃ found : List (List Text),
      (Search.of extensions patterns).collect w [given] = .ok (found.map (sourceAt place t)) ∧
      (∀ names, names ∈ found ↔
        (∃ os, t.at? names = some (.file os)) ∧ Sought extensions patterns names) ∧
      (found.map Path.joined).Nodup ∧
      found.Pairwise Precedes ∧
      ∀ more, patterns ⊆ more → ∃ kept : List (List Text),
        (Search.of extensions more).collect w [given] = .ok (kept.map (sourceAt place t)) ∧
        kept.Sublist found := by
  have hmem : ∀ patterns leads names, names ∈ below (Search.of extensions patterns) leads [] t ↔
      (∃ os, t.at? names = some (.file os)) ∧ Sought extensions patterns names := by
    intro patterns leads names
    rw [mem_below_iff hr hd]
    constructor
    · rintro ⟨names, rfl, hos, hreach⟩
      exact ⟨hos, (reaches_of_iff hreach.ne_nil).mp hreach⟩
    · rintro ⟨⟨os, hos⟩, hsought⟩
      have hne : names ≠ [] := by
        rintro rfl
        obtain rfl := Option.some.inj hos
        cases hd
      exact ⟨names, rfl, ⟨os, hos⟩, (reaches_of_iff hne).mpr hsought⟩
  obtain ⟨leads, hcollect⟩ := collect_eq_map_below hx hp ht hd hr (Search.of extensions patterns)
  refine ⟨_, hcollect, hmem patterns leads, ?_, pairwise_below hr, fun more hmore => ?_⟩
  · -- the names of a written path can be told from it
    refine List.Nodup.map_on ?_ (pairwise_below hr).nodup
    intro ns hns ms hms h
    obtain ⟨_, rfl, ⟨_, hos⟩, hreach⟩ := (mem_below_iff hr hd).mp hns
    obtain ⟨_, rfl, ⟨_, hos'⟩, hreach'⟩ := (mem_below_iff hr hd).mp hms
    exact Path.joined_injective hreach.ne_nil hreach'.ne_nil (hr.leads hos).2.2
      (hr.leads hos').2.2 h
  · obtain ⟨leads', hcollect'⟩ := collect_eq_map_below hx hp ht hd hr (Search.of extensions more)
    refine ⟨_, hcollect', ?_⟩
    -- both lists are in order, so the smaller set is the shorter list
    refine List.sublist_of_subperm_of_pairwise ?_ (pairwise_below hr) (pairwise_below hr)
    refine List.subperm_of_subset (pairwise_below hr).nodup fun names hnames => ?_
    obtain ⟨hos, hsought⟩ := (hmem more leads' names).mp hnames
    exact (hmem patterns leads names).mpr ⟨hos, hsought.of_subset hmore⟩

/-- A directory with a source, a directory of sources, and one that is never searched. -/
def nested : Workplace where
  files := .directory
    [("src".toList, .directory
        [("b.js".toList, .file []), ("B.JS".toList, .file []), ("c.md".toList, .file [])]),
      ("node_modules".toList, .directory [("d.js".toList, .file [])]),
      ("z.js".toList, .file [])]
  here := []
  home := []

theorem regular_nested : nested.files.Regular := by
  have hempty : FileTree.Regular (.file []) := .file (s := []) rfl
  refine .directory (by decide) (by decide) ?_
  simp only [List.forall_mem_cons]
  refine ⟨.directory (by decide) (by decide) ?_, .directory (by decide) (by decide) ?_, hempty,
    fun _ h => absurd h List.not_mem_nil⟩
  · simp only [List.forall_mem_cons]
    exact ⟨hempty, hempty, hempty, fun _ h => absurd h List.not_mem_nil⟩
  · simp only [List.forall_mem_cons]
    exact ⟨hempty, fun _ h => absurd h List.not_mem_nil⟩

/-- Of the files of the example, those below a directory that is never searched and those with
another end are not found; a pattern takes away one more. -/
theorem collect_directory_nested :
    nested.expand? (.ofText ['.']) = some ⟨false, []⟩ ∧ nested.place ⟨false, []⟩ = .ok [] ∧
    nested.files.at? [] = some nested.files ∧ nested.files.isDirectory = true ∧
    nested.files.Regular ∧
    ∃ found : List (List Text),
      (Search.of [".js".toList] ["b*".toList]).collect nested [['.']] =
        .ok (found.map (sourceAt [] nested.files)) ∧
      found.Pairwise Precedes ∧
      ["src".toList, "B.JS".toList] ∈ found ∧ ["src".toList, "b.js".toList] ∉ found ∧
      ["node_modules".toList, "d.js".toList] ∉ found := by
  have hpath : nested.expand? (.ofText ['.']) = some ⟨false, []⟩ := by
    decide +kernel
  have hplace : nested.place ⟨false, []⟩ = .ok [] := Workplace.place_of_leads (.nil nested.files)
  obtain ⟨found, hcollect, hmem, -, horder, -⟩ :=
    collect_directory hpath hplace rfl rfl regular_nested [".js".toList] ["b*".toList]
  refine ⟨hpath, hplace, rfl, rfl, regular_nested, found, hcollect, horder, ?_, ?_, ?_⟩
  · rw [hmem, ← reaches_of_iff (List.cons_ne_nil _ _)]
    refine ⟨⟨_, rfl⟩, by decide +kernel, ?_⟩
    show Search.wantsFile _ _ _ = true
    decide +kernel
  · rw [hmem, ← reaches_of_iff (List.cons_ne_nil _ _)]
    rintro ⟨-, -, h⟩
    have hfile : (Search.of [".js".toList] ["b*".toList]).wantsFile "b.js".toList
        "src/b.js".toList = false := by
      decide +kernel
    exact Bool.false_ne_true (hfile.symm.trans h)
  · rw [hmem]
    rintro ⟨-, h⟩
    exact (h.above [] "node_modules".toList (by decide)).1 (by decide)

end

end Search

end Docblock
