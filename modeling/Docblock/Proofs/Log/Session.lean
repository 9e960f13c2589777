/-
# Docblock.Proofs.Log.Session — what a record can change.

A record comes to nothing, is shown as it is, or goes to all outlets (`report_cases`), and it leaves
the outlets and the level as they are.  Between two sessions a file can grow that is an outlet, and
no other (`content?_report`).  Writing to it does not change which paths can be opened and where
they lead, and the files that are outlets stay where they are: this is what `Sound` says, and why no
record is ever refused.
-/
import Docblock.Log.Session
import Docblock.Proofs.FileTree.Writing

namespace Docblock

namespace Session

/-- What is in the file at a place. -/
def content? (s : Session) (place : List Text) : Option Octets := s.workplace.files.content? place

variable {w : Workplace} {s s' s'' : Session} {out : Option (List Text)}

/-! ## What stays -/

/-- The outlets, the level and the known names are the same. -/
structure SameOutlets (s s' : Session) : Prop where
  outlets : s'.outlets = s.outlets
  level : s'.level = s.level
  known : s'.known = s.known

namespace SameOutlets

theorem refl (s : Session) : SameOutlets s s := ⟨rfl, rfl, rfl⟩

theorem trans (h : SameOutlets s s') (h' : SameOutlets s' s'') : SameOutlets s s'' :=
  ⟨h'.outlets.trans h.outlets, h'.level.trans h.level, h'.known.trans h.known⟩

end SameOutlets

theorem mem_known_know {name source : Text} :
    name ∈ (s.know source).known ↔ name = source ∨ name ∈ s.known := by
  rw [know]
  split
  · next h =>
    refine ⟨.inr, fun hn => hn.elim (fun he => ?_) id⟩
    exact he ▸ List.contains_iff_mem.mp h
  · exact List.mem_cons

section Know

variable (source : Text) (s : Session)

theorem outlets_know : (s.know source).outlets = s.outlets := by
  rw [know]
  split <;> rfl

theorem level_know : (s.know source).level = s.level := by
  rw [know]
  split <;> rfl

theorem workplace_know : (s.know source).workplace = s.workplace := by
  rw [know]
  split <;> rfl

theorem screen_know : (s.know source).screen = s.screen := by
  rw [know]
  split <;> rfl

end Know

theorem sameOutlets_deliver (time : Text) (r : LogRecord) (s : Session) (o : Outlet) :
    SameOutlets s (s.deliver time r o) := by
  rw [deliver]
  split
  · split <;> exact ⟨rfl, rfl, rfl⟩
  · exact .refl s

theorem sameOutlets_foldl_deliver (time : Text) (r : LogRecord) (os : List Outlet) (s : Session) :
    SameOutlets s (os.foldl (deliver time r) s) := by
  induction os generalizing s with
  | nil => exact .refl s
  | cons o os ih => exact (sameOutlets_deliver time r s o).trans (ih _)

/-- A record comes to nothing, is shown as it is, or goes to all outlets. -/
theorem report_cases (time : Text) (r : LogRecord) (s : Session) :
    s.report time r = s.know r.source ∨
      s.report time r = (s.know r.source).display (r.message ++ ['\n']) ∨
      s.report time r = s.outlets.foldl (deliver time r) (s.know r.source) := by
  rw [report]
  split
  · rw [outletsOf, outlets_know]
    split
    · cases s.outlets with
      | nil =>
        rw [dispatch]
        split
        · exact .inr (.inl rfl)
        · exact .inl rfl
      | cons o os => exact .inr (.inr rfl)
    · rw [dispatch]
      split
      · exact .inr (.inl rfl)
      · exact .inl rfl
  · exact .inl rfl

theorem sameOutlets_report (time : Text) (r : LogRecord) (s : Session) :
    SameOutlets (s.know r.source) (s.report time r) := by
  obtain h | h | h := report_cases time r s
  · rw [h]
    exact .refl _
  · rw [h]
    exact ⟨rfl, rfl, rfl⟩
  · rw [h]
    exact sameOutlets_foldl_deliver time r s.outlets _

/-! ## Files stay open -/

/-- What can be opened in a workplace can still be opened, at the same place, and nothing else can;
and the files that records go to are there. -/
structure Sound (w : Workplace) (s : Session) : Prop where
  opens : ∀ p place, s.workplace.writingPlace p = .ok place ↔ w.writingPlace p = .ok place
  present : ∀ o ∈ s.outlets, ∀ place, o.file = some place → (s.content? place).isSome

theorem sound_start (w : Workplace) : Sound w (start w) :=
  ⟨fun _ _ => Iff.rfl, fun _ ho => absurd ho List.not_mem_nil⟩

theorem Sound.congr (h : Sound w s) (hs : s'.outlets = s.outlets)
    (hw : s'.workplace = s.workplace) : Sound w s' := by
  refine ⟨fun p place => ?_, fun o ho place hplace => ?_⟩
  · rw [hw]
    exact h.opens p place
  · rw [content?, hw]
    exact h.present o (hs ▸ ho) place hplace

/-- Nothing that is sound is lost when a file is written. -/
theorem Sound.append (h : Sound w s) {spot : List Text} (hspot : s.workplace.files.Writable spot)
    (os : Octets) : Sound w { s with workplace := s.workplace.append spot os } := by
  refine ⟨fun p place => ?_, fun o ho place hplace => ?_⟩
  · exact (Workplace.writingPlace_append_eq_ok_iff hspot os).trans (h.opens p place)
  · have hpresent := h.present o ho place hplace
    rw [content?, Workplace.content?_append hspot]
    split
    · rfl
    · exact hpresent

theorem Sound.writable (h : Sound w s) {o : Outlet} (ho : o ∈ s.outlets) {place : List Text}
    (hplace : o.file = some place) : s.workplace.files.Writable place := by
  obtain ⟨os, hos⟩ := Option.isSome_iff_exists.mp (h.present o ho place hplace)
  exact FileTree.writable_of_content? hos

theorem Sound.deliver (h : Sound w s) (time : Text) (r : LogRecord) {o : Outlet}
    (ho : o ∈ s.outlets) : Sound w (s.deliver time r o) := by
  rw [Session.deliver]
  split
  · split
    · exact h.congr rfl rfl
    · next place hplace => exact h.append (h.writable ho hplace) _
  · exact h

theorem Sound.foldl_deliver (h : Sound w s) (time : Text) (r : LogRecord) {os : List Outlet}
    (hos : os ⊆ s.outlets) : Sound w (os.foldl (Session.deliver time r) s) := by
  induction os generalizing s with
  | nil => exact h
  | cons o os ih =>
    obtain ⟨ho, hos⟩ := List.cons_subset.mp hos
    apply ih (h.deliver time r ho)
    rw [(sameOutlets_deliver time r s o).outlets]
    exact hos

theorem Sound.know (h : Sound w s) (source : Text) : Sound w (s.know source) :=
  h.congr (outlets_know source s) (workplace_know source s)

theorem Sound.report (h : Sound w s) (time : Text) (r : LogRecord) :
    Sound w (s.report time r) := by
  obtain heq | heq | heq := report_cases time r s
  · rw [heq]
    exact h.know r.source
  · rw [heq]
    exact (h.know r.source).congr rfl rfl
  · rw [heq]
    apply (h.know r.source).foldl_deliver time r
    rw [outlets_know]
    exact List.Subset.refl _

/-! ## What is added -/

/-- From one session to a later one a text is added to the screen, and octets to the file at `out`,
which is there in the end; no other file changes. -/
structure Delivers (out : Option (List Text)) (shown : Text) (kept : Octets) (s s' : Session) :
    Prop where
  screen : s'.screen = s.screen ++ shown
  content : ∀ place, s'.content? place =
    if some place = out then some ((s.content? place).getD [] ++ kept) else s.content? place

theorem Delivers.trans {shown shown' : Text} {kept kept' : Octets}
    (h : Delivers out shown kept s s') (h' : Delivers out shown' kept' s' s'') :
    Delivers out (shown ++ shown') (kept ++ kept') s s'' := by
  refine ⟨?_, fun place => ?_⟩
  · rw [h'.screen, h.screen, List.append_assoc]
  · rw [h'.content, h.content]
    split
    · rw [Option.getD_some, List.append_assoc]
    · rfl

/-- Nothing is added when neither the screen nor the files change. -/
theorem delivers_nil (hscreen : s'.screen = s.screen) (hw : s'.workplace = s.workplace)
    (hout : ∀ place, out = some place → (s.content? place).isSome) :
    Delivers out [] [] s s' := by
  refine ⟨by rw [hscreen, List.append_nil], fun place => ?_⟩
  have hcontent : s'.content? place = s.content? place := by rw [content?, hw, content?]
  rw [hcontent]
  split
  · next h =>
    obtain ⟨os, hos⟩ := Option.isSome_iff_exists.mp (hout place h.symm)
    rw [hos, Option.getD_some, List.append_nil]
  · rfl

theorem delivers_display (text : Text)
    (hout : ∀ place, out = some place → (s.content? place).isSome) :
    Delivers out text [] s (s.display text) :=
  ⟨rfl, (delivers_nil rfl rfl hout).content⟩

theorem delivers_append {place : List Text} (hplace : s.workplace.files.Writable place)
    (os : Octets) :
    Delivers (some place) [] os s { s with workplace := s.workplace.append place os } := by
  refine ⟨(List.append_nil s.screen).symm, fun q => ?_⟩
  simp only [Option.some.injEq]
  exact Workplace.content?_append hplace os q

/-- Without a file it does not matter what would be added to it. -/
theorem Delivers.of_none {shown : Text} {kept : Octets} (h : Delivers none shown kept s s')
    (kept' : Octets) : Delivers none shown kept' s s' := by
  refine ⟨h.screen, fun place => ?_⟩
  rw [h.content, if_neg (by simp), if_neg (by simp)]

/-! ## Other files -/

theorem content?_deliver (h : Sound w s) (time : Text) (r : LogRecord) {o : Outlet}
    (ho : o ∈ s.outlets) {place : List Text} (hplace : o.file ≠ some place) :
    (s.deliver time r o).content? place = s.content? place := by
  rw [deliver]
  split
  · split
    · rfl
    · next q hq =>
      have hne : place ≠ q := fun he => hplace (he ▸ hq)
      show (s.workplace.append q _).files.content? place = _
      rw [Workplace.content?_append (h.writable ho hq), if_neg hne]
      rfl
  · rfl

theorem content?_foldl_deliver (h : Sound w s) (time : Text) (r : LogRecord) {os : List Outlet}
    (hos : os ⊆ s.outlets) {place : List Text} (hplace : ∀ o ∈ os, o.file ≠ some place) :
    (os.foldl (deliver time r) s).content? place = s.content? place := by
  induction os generalizing s with
  | nil => rfl
  | cons o os ih =>
    obtain ⟨ho, hos⟩ := List.cons_subset.mp hos
    obtain ⟨hne, hplace⟩ := List.forall_mem_cons.mp hplace
    rw [List.foldl_cons, ih (h.deliver time r ho) _ hplace, content?_deliver h time r ho hne]
    rw [(sameOutlets_deliver time r s o).outlets]
    exact hos

/-- Wherever a record goes, a file that is no outlet does not change. -/
theorem content?_report (h : Sound w s) (time : Text) (r : LogRecord) {place : List Text}
    (hplace : ∀ o ∈ s.outlets, o.file ≠ some place) :
    (s.report time r).content? place = s.content? place := by
  have hcontent : (s.know r.source).content? place = s.content? place := by
    rw [content?, workplace_know, content?]
  obtain heq | heq | heq := report_cases time r s
  · rw [heq, hcontent]
  · rw [heq]
    exact hcontent
  · rw [heq, ← hcontent]
    apply content?_foldl_deliver (h.know r.source) time r _ hplace
    rw [outlets_know]
    exact List.Subset.refl _

end Session

end Docblock
