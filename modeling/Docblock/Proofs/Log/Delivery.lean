/-
# Docblock.Proofs.Log.Delivery — every record arrives once.

Setting up leaves the screen as an outlet, and the file that was named, if any, whatever outlets
there were before (`setUp_spec`).  A message of a part below the root shows one line on the screen
and adds one line to the file when it is urgent enough, and otherwise changes nothing
(`delivers_report`).  So since the latest setting up the screen and the file have got one line for
every message that is urgent enough, and no other file has changed (`run_messages`).

A part whose name begins with one dot does not lie below the root, and what it reports reaches no
outlet (`report_dotted`).
-/
import Docblock.Log.Delivery
import Docblock.Proofs.Log.Session
import Docblock.Proofs.Log.Source

namespace Docblock

open LogRecord (root sourceName)

namespace LogMessage

/-- What a message shows on the screen when records from a level on are delivered. -/
def onScreen (least : Level) (m : LogMessage) : Text :=
  if least.rank ≤ m.level.rank then m.record.screenLine ++ ['\n'] else []

/-- What a message adds to the file when records from a level on are delivered. -/
def inFile (least : Level) (m : LogMessage) : Octets :=
  if least.rank ≤ m.level.rank then Utf8.encode (m.time ++ m.record.fileLine ++ ['\n']) else []

end LogMessage

namespace Session

variable {w : Workplace} {s s' : Session} {verbose : Bool} {out : Option (List Text)}

/-! ## Setting up -/

/-- The place of the file that records go to when it is named in a workplace. -/
def sink (w : Workplace) (file : Option Path) : Option (List Text) :=
  file.bind fun p => (w.writingPlace p).toOption

/-- Delivery is set up: the screen is an outlet, and the file at `out` if there is one. -/
structure IsSetUp (verbose : Bool) (out : Option (List Text)) (s : Session) : Prop where
  known : root ∈ s.known
  level : s.level = some (.least verbose)
  outlets : s.outlets = { level := .least verbose, file := none } ::
    (out.map fun place => { level := .least verbose, file := some place }).toList

theorem IsSetUp.know (h : IsSetUp verbose out s) (source : Text) :
    IsSetUp verbose out (s.know source) :=
  ⟨mem_known_know.mpr (.inr h.known), (level_know source s).trans h.level,
    (outlets_know source s).trans h.outlets⟩

theorem IsSetUp.report (h : IsSetUp verbose out s) (time : Text) (r : LogRecord) :
    IsSetUp verbose out (s.report time r) := by
  have hknow := h.know r.source
  have hsame := sameOutlets_report time r s
  exact ⟨hsame.known ▸ hknow.known, hsame.level.trans hknow.level,
    hsame.outlets.trans hknow.outlets⟩

theorem IsSetUp.length_outlets (h : IsSetUp verbose out s) :
    s.outlets.length = 1 + out.toList.length := by
  rw [h.outlets, List.length_cons, Nat.add_comm]
  cases out <;> rfl

theorem IsSetUp.mem_outlets {place : List Text} (h : IsSetUp verbose (some place) s) :
    { level := .least verbose, file := some place } ∈ s.outlets := by
  rw [h.outlets]
  exact List.mem_cons_of_mem _ (List.mem_singleton_self _)

theorem IsSetUp.present (h : IsSetUp verbose out s) (hs : Sound w s) (place : List Text)
    (hout : out = some place) : (s.content? place).isSome := by
  subst hout
  exact hs.present _ h.mem_outlets place rfl

theorem IsSetUp.writable {place : List Text} (h : IsSetUp verbose (some place) s)
    (hs : Sound w s) : s.workplace.files.Writable place :=
  hs.writable h.mem_outlets rfl

theorem IsSetUp.file_ne (h : IsSetUp verbose out s) {place : List Text} (hne : some place ≠ out)
    {o : Outlet} (ho : o ∈ s.outlets) : o.file ≠ some place := by
  rw [h.outlets] at ho
  rcases List.mem_cons.mp ho with rfl | ho
  · simp
  · obtain ⟨q, hq, rfl⟩ := Option.map_eq_some_iff.mp (Option.mem_toList.mp ho)
    intro he
    exact hne (he.symm.trans hq.symm)

/-- All outlets are taken away. -/
theorem without_self (os : List Outlet) : Outlet.without os os = [] := by
  induction os with
  | nil => rfl
  | cons o os ih => rw [Outlet.without, List.erase_cons_head, ih]

theorem isSetUp_reset (verbose : Bool) (s : Session) : IsSetUp verbose none (s.reset verbose) := by
  refine ⟨mem_known_know.mpr (.inl rfl), rfl, ?_⟩
  show Outlet.without _ _ ++ _ = _
  rw [without_self]
  rfl

theorem Sound.reset (h : Sound w s) (verbose : Bool) : Sound w (s.reset verbose) := by
  have hw : (s.reset verbose).workplace = s.workplace := workplace_know root s
  refine ⟨fun p place => ?_, fun o ho place hplace => ?_⟩
  · rw [hw]
    exact h.opens p place
  · rw [(isSetUp_reset verbose s).outlets] at ho
    obtain rfl := List.mem_singleton.mp ho
    exact absurd hplace (by simp)

theorem isSetUp_attach (h : IsSetUp verbose none s) (place : List Text) :
    IsSetUp verbose (some place) (s.attach verbose place) := by
  refine ⟨h.known, h.level, ?_⟩
  show s.outlets ++ _ = _
  rw [h.outlets]
  rfl

section Attach

variable {place : List Text} (hplace : s.workplace.files.Writable place)

include hplace

theorem delivers_attach (verbose : Bool) :
    Delivers (some place) [] [] s (s.attach verbose place) :=
  ⟨(delivers_append hplace []).screen, (delivers_append hplace []).content⟩

theorem Sound.attach (h : Sound w s) (verbose : Bool) : Sound w (s.attach verbose place) := by
  have happend := h.append hplace []
  refine ⟨happend.opens, fun o ho q hq => ?_⟩
  rcases List.mem_append.mp ho with ho | ho
  · exact happend.present o ho q hq
  · obtain rfl := List.mem_singleton.mp ho
    obtain rfl := Option.some.inj hq
    rw [(delivers_attach hplace verbose).content, if_pos rfl]
    rfl

end Attach

theorem sink_eq {p : Path} {place : List Text} (h : w.writingPlace p = .ok place) :
    sink w (some p) = some place := by
  rw [sink, Option.bind_some, h]
  rfl

theorem writable_of_sink {file : Option Path} {place : List Text} (h : sink w file = some place) :
    w.files.Writable place := by
  obtain ⟨p, -, hp⟩ := Option.bind_eq_some_iff.mp h
  cases hplace : w.writingPlace p with
  | error a => rw [hplace] at hp; cases hp
  | ok place' =>
    rw [hplace] at hp
    exact Option.some.inj hp ▸ Workplace.writable_of_writingPlace hplace

/-- Setting up with a file fails when it cannot be opened, and else it stands beside the screen. -/
theorem setUp_some_eq_ok_iff (h : Sound w s) {p : Path} :
    s.setUp verbose (some p) = .ok s' ↔
      ∃ place, w.writingPlace p = .ok place ∧ (s.reset verbose).attach verbose place = s' := by
  simp only [← h.opens, setUp]
  cases s.workplace.writingPlace p with
  | error a =>
    refine ⟨fun he => ?_, fun ⟨place, he, _⟩ => ?_⟩
    · exact absurd (show Except.error a = Except.ok s' from he) (by simp)
    · exact absurd he (by simp)
  | ok place =>
    refine ⟨fun he => ⟨place, rfl, Except.ok.inj he⟩, fun ⟨place', he, hs⟩ => ?_⟩
    rw [← hs, ← Except.ok.inj he]
    rfl

/-- A file can be opened, if one is named. -/
def Openable (w : Workplace) (file : Option Path) : Prop :=
  ∀ p, file = some p → ∃ place, w.writingPlace p = .ok place

theorem exists_setUp_iff (h : Sound w s) (verbose : Bool) (file : Option Path) :
    (∃ s', s.setUp verbose file = .ok s') ↔ Openable w file := by
  cases file with
  | none => exact ⟨fun _ p hp => absurd hp (by simp), fun _ => ⟨_, rfl⟩⟩
  | some p =>
    constructor
    · rintro ⟨s', hs'⟩ p' hp'
      obtain ⟨place, hplace, -⟩ := (setUp_some_eq_ok_iff h).mp hs'
      exact ⟨place, Option.some.inj hp' ▸ hplace⟩
    · intro hopen
      obtain ⟨place, hplace⟩ := hopen p rfl
      exact ⟨_, (setUp_some_eq_ok_iff h).mpr ⟨place, hplace, rfl⟩⟩

/-- Setting up leaves the named file and the screen as outlets, and adds nothing to them. -/
theorem setUp_spec (h : Sound w s) {file : Option Path} (hs : s.setUp verbose file = .ok s') :
    IsSetUp verbose (sink w file) s' ∧ Delivers (sink w file) [] [] s s' ∧ Sound w s' ∧
      (sink w file).toList.length = file.toList.length := by
  have hset := isSetUp_reset verbose s
  have hsound := h.reset verbose
  have hscreen : (s.reset verbose).screen = s.screen := screen_know root s
  have hw : (s.reset verbose).workplace = s.workplace := workplace_know root s
  cases file with
  | none =>
    obtain rfl := Except.ok.inj hs
    exact ⟨hset, delivers_nil hscreen hw (by simp [sink]), hsound, rfl⟩
  | some p =>
    obtain ⟨place, hplace, rfl⟩ := (setUp_some_eq_ok_iff h).mp hs
    have hwritable := Workplace.writable_of_writingPlace ((hsound.opens p place).mpr hplace)
    have hattach := delivers_attach hwritable verbose
    rw [sink_eq hplace]
    refine ⟨isSetUp_attach hset place, ⟨?_, fun q => ?_⟩, hsound.attach hwritable verbose, rfl⟩
    · rw [hattach.screen, hscreen]
    · rw [hattach.content, content?, hw, content?]

/-! ## Messages -/

variable {m : LogMessage}

/-- A record that goes up to the root comes to all outlets when it is urgent enough. -/
theorem report_of_reaches (time : Text) (r : LogRecord) (hset : IsSetUp verbose out s)
    (hroot : LogSource.reachesRoot (s.know r.source).known r.source = true) :
    s.report time r =
      if (Level.least verbose).rank ≤ r.level.rank then
        s.outlets.foldl (deliver time r) (s.know r.source)
      else s.know r.source := by
  have hknow := hset.know r.source
  rw [report, leastOf, outletsOf, if_pos hroot, if_pos hroot, hknow.level, hknow.outlets,
    hset.outlets]
  rfl

/-- A message of a part below the root shows and adds one line when it is urgent enough. -/
theorem delivers_report (hset : IsSetUp verbose out s) (h : Sound w s)
    (hm : m.part.head? ≠ some '.') :
    Delivers out (m.onScreen (.least verbose)) (m.inFile (.least verbose)) s
      (s.report m.time m.record) := by
  have hw := workplace_know m.record.source s
  have hscreen := screen_know m.record.source s
  have hpresent := hset.present h
  have hroot : LogSource.reachesRoot (s.know m.record.source).known m.record.source = true :=
    LogSource.reachesRoot_of_head?_ne_dot (hset.know m.record.source).known hm
  rw [report_of_reaches m.time m.record hset hroot, LogMessage.onScreen, LogMessage.inFile]
  by_cases hlevel : (Level.least verbose).rank ≤ m.level.rank
  · have hlevel' : (Level.least verbose).rank ≤ m.record.level.rank := hlevel
    rw [if_pos hlevel', if_pos hlevel, if_pos hlevel, hset.outlets, List.foldl_cons, deliver,
      if_pos hlevel']
    have hknow := hset.know m.record.source
    have hsound := h.know m.record.source
    have hline : Delivers out (m.record.screenLine ++ ['\n']) [] s
        ((s.know m.record.source).display (m.record.screenLine ++ ['\n'])) :=
      (delivers_nil hscreen hw hpresent).trans (delivers_display _ (hknow.present hsound))
    -- the screen has got its line, and the file comes next if there is one
    cases out with
    | none => exact hline.of_none _
    | some place =>
      rw [Option.map_some, Option.toList_some, List.foldl_cons, List.foldl_nil, deliver,
        if_pos hlevel']
      have hadded := hline.trans (delivers_append
        (s := (s.know m.record.source).display (m.record.screenLine ++ ['\n']))
        (hknow.writable hsound) (Utf8.encode (m.time ++ m.record.fileLine ++ ['\n'])))
      rw [List.append_nil] at hadded
      exact hadded
  · have hlevel' : ¬ (Level.least verbose).rank ≤ m.record.level.rank := hlevel
    rw [if_neg hlevel', if_neg hlevel, if_neg hlevel]
    exact delivers_nil hscreen hw hpresent

/-! ## Runs -/

variable {e : LogEvent} {es es' : List LogEvent}

theorem run_cons_eq_ok_iff :
    s.run (e :: es) = .ok s' ↔ ∃ s₁, s.step e = .ok s₁ ∧ s₁.run es = .ok s' := by
  rw [run]
  cases s.step e with
  | ok s₁ => exact ⟨fun h => ⟨s₁, rfl, h⟩, fun ⟨s₂, he, h⟩ => Except.ok.inj he ▸ h⟩
  | error a =>
    constructor
    · intro h
      exact absurd h (by simp [bind, Except.bind])
    · rintro ⟨s₁, he, -⟩
      exact absurd he (by simp)

theorem run_append_eq_ok_iff :
    s.run (es ++ es') = .ok s' ↔ ∃ s₁, s.run es = .ok s₁ ∧ s₁.run es' = .ok s' := by
  induction es generalizing s with
  | nil => exact ⟨fun h => ⟨s, rfl, h⟩, fun ⟨s₁, he, h⟩ => Except.ok.inj he ▸ h⟩
  | cons e es ih =>
    rw [List.cons_append, run_cons_eq_ok_iff]
    constructor
    · rintro ⟨s₁, hstep, hrun⟩
      obtain ⟨s₂, hrun₂, hrun'⟩ := ih.mp hrun
      exact ⟨s₂, run_cons_eq_ok_iff.mpr ⟨s₁, hstep, hrun₂⟩, hrun'⟩
    · rintro ⟨s₂, hrun₂, hrun'⟩
      obtain ⟨s₁, hstep, hrun⟩ := run_cons_eq_ok_iff.mp hrun₂
      exact ⟨s₁, hstep, ih.mpr ⟨s₂, hrun, hrun'⟩⟩

theorem Sound.step (h : Sound w s) (hstep : s.step e = .ok s') : Sound w s' := by
  cases e with
  | setUp verbose file => exact (setUp_spec h hstep).2.2.1
  | message m =>
    obtain rfl := Except.ok.inj hstep
    exact h.report m.time m.record

theorem Sound.run (h : Sound w s) (hrun : s.run es = .ok s') : Sound w s' := by
  induction es generalizing s with
  | nil => exact Except.ok.inj hrun ▸ h
  | cons e es ih =>
    obtain ⟨s₁, hstep, hrest⟩ := run_cons_eq_ok_iff.mp hrun
    exact ih (h.step hstep) hrest

/-- A run fails only when a file is named that could not be opened at the start. -/
theorem exists_run_iff (h : Sound w s) :
    (∃ s', s.run es = .ok s') ↔ ∀ verbose file, .setUp verbose file ∈ es → Openable w file := by
  induction es generalizing s with
  | nil => exact ⟨fun _ _ _ he => absurd he List.not_mem_nil, fun _ => ⟨s, rfl⟩⟩
  | cons e es ih =>
    constructor
    · rintro ⟨s', hrun⟩ verbose file hmem
      obtain ⟨s₁, hstep, hrest⟩ := run_cons_eq_ok_iff.mp hrun
      rcases List.mem_cons.mp hmem with rfl | hmem
      · exact (exists_setUp_iff h verbose file).mp ⟨s₁, hstep⟩
      · exact (ih (h.step hstep)).mp ⟨s', hrest⟩ verbose file hmem
    · intro hopen
      have hfirst : ∃ s₁, s.step e = .ok s₁ := by
        cases e with
        | setUp verbose file =>
          exact (exists_setUp_iff h verbose file).mpr (hopen verbose file List.mem_cons_self)
        | message m => exact ⟨_, rfl⟩
      obtain ⟨s₁, hstep⟩ := hfirst
      obtain ⟨s', hrun⟩ := (ih (h.step hstep)).mpr fun verbose file hmem =>
        hopen verbose file (List.mem_cons_of_mem e hmem)
      exact ⟨s', run_cons_eq_ok_iff.mpr ⟨s₁, hstep, hrun⟩⟩

/-- Messages leave the outlets as they are and change no other file; those of parts below the root
show and add one line each when they are urgent enough. -/
theorem run_messages (hset : IsSetUp verbose out s) (h : Sound w s) {ms : List LogMessage}
    (hrun : s.run (ms.map .message) = .ok s') :
    IsSetUp verbose out s' ∧ (∀ place, some place ≠ out → s'.content? place = s.content? place) ∧
      ((∀ m ∈ ms, m.part.head? ≠ some '.') →
        Delivers out (ms.flatMap (·.onScreen (.least verbose)))
          (ms.flatMap (·.inFile (.least verbose))) s s') := by
  induction ms generalizing s with
  | nil =>
    obtain rfl := Except.ok.inj hrun
    exact ⟨hset, fun _ _ => rfl, fun _ => delivers_nil rfl rfl (hset.present h)⟩
  | cons m ms ih =>
    obtain ⟨s₁, hstep, hrest⟩ := run_cons_eq_ok_iff.mp hrun
    obtain rfl := Except.ok.inj hstep
    have hset₁ := hset.report m.time m.record
    obtain ⟨hset', hothers, hdelivers⟩ := ih hset₁ (h.report m.time m.record) hrest
    refine ⟨hset', fun place hne => ?_, fun hms => ?_⟩
    · rw [hothers place hne]
      exact content?_report h m.time m.record fun o ho => hset.file_ne hne ho
    · obtain ⟨hm, hms⟩ := List.forall_mem_cons.mp hms
      rw [List.flatMap_cons, List.flatMap_cons]
      exact (delivers_report hset h hm).trans (hdelivers hms)

/-- However often delivery is set up and whatever is reported meanwhile, a run fails only when a
named file cannot be opened, and what counts is the latest setting up.  There are one or two
outlets; of the files only the one that was named last has changed since then; and a message of a
part whose name does not begin with a dot adds one line to the screen and one to that file when it
is urgent enough, and else nothing, so that after several such messages just their lines are
there. -/
theorem run_delivers (w : Workplace) (es : List LogEvent) :
    ((∃ s, run (start w) es = .ok s) ↔
      ∀ verbose file, .setUp verbose file ∈ es → Openable w file) ∧
    ∀ s, run (start w) es = .ok s →
      ∀ (before : List LogEvent) (verbose : Bool) (file : Option Path) (ms : List LogMessage),
        es = before ++ .setUp verbose file :: ms.map .message →
        s.outlets.length = 1 + file.toList.length ∧
        (∀ m : LogMessage, m.part.head? ≠ some '.' →
          Delivers (sink w file) (m.onScreen (.least verbose)) (m.inFile (.least verbose)) s
            (s.report m.time m.record)) ∧
        ∃ s₀, run (start w) before = .ok s₀ ∧
          (∀ place, some place ≠ sink w file → s.content? place = s₀.content? place) ∧
          ((∀ m ∈ ms, m.part.head? ≠ some '.') →
            Delivers (sink w file) (ms.flatMap (·.onScreen (.least verbose)))
              (ms.flatMap (·.inFile (.least verbose))) s₀ s) := by
  refine ⟨exists_run_iff (sound_start w), ?_⟩
  rintro s hrun before verbose file ms rfl
  obtain ⟨s₀, hbefore, hrest⟩ := run_append_eq_ok_iff.mp hrun
  obtain ⟨s₁, hstep, hmessages⟩ := run_cons_eq_ok_iff.mp hrest
  obtain ⟨hset₁, hdelivers₁, hsound₁, hlength⟩ := setUp_spec ((sound_start w).run hbefore) hstep
  obtain ⟨hset, hothers, hdelivers⟩ := run_messages hset₁ hsound₁ hmessages
  have hsound := hsound₁.run hmessages
  refine ⟨?_, fun m hm => delivers_report hset hsound hm, s₀, hbefore, fun place hne => ?_,
    fun hms => hdelivers₁.trans (hdelivers hms)⟩
  · rw [hset.length_outlets, hlength]
  · rw [hothers place hne, hdelivers₁.content, if_neg hne]

section Again

/-- An empty directory to work in. -/
def emptyPlace : Workplace := { files := .directory [], here := [], home := [] }

/-- A file in it. -/
def logPath : Path := { absolute := false, parts := ["log".toList] }

theorem writingPlace_logPath : emptyPlace.writingPlace logPath = .ok ["log".toList] := by
  have hnames : emptyPlace.namesOf (.ofParts (emptyPlace.lexicalNames logPath)) =
    ["log".toList] := by decide
  have hroot : emptyPlace.files.at? [] = some (.directory []) := rfl
  rw [Workplace.writingPlace, Workplace.target, hnames]
  exact Workplace.destination_last hroot _ (by decide) FileTree.free_none

/-- A message that is told by default. -/
def firstMessage : LogMessage := ⟨"12:00 ".toList, "cli".toList, .info, "one".toList⟩

/-- A message that is told only when asked to. -/
def secondMessage : LogMessage := ⟨"12:01 ".toList, "cli".toList, .debug, "two".toList⟩

/-- Delivery to a file, and the first message. -/
def firstLog : List LogEvent := [.setUp false (some logPath), .message firstMessage]

/-- The same file again, with more to be told, and the second message. -/
def logAgain : List LogEvent := firstLog ++ [.setUp true (some logPath), .message secondMessage]

/-- A file that is named twice keeps what it has got and gets every line once. -/
theorem run_delivers_again :
    ∃ s, run (start emptyPlace) logAgain = .ok s ∧ s.outlets.length = 2 ∧
      s.screen = "[dox] INFO one\n[dox] DEBUG two\n".toList ∧
      s.content? ["log".toList] =
        some (Utf8.encode "12:00 INFO dox.cli: one\n12:01 DEBUG dox.cli: two\n".toList) := by
  have hopen : ∀ verbose file, .setUp verbose file ∈ logAgain → Openable emptyPlace file := by
    intro verbose file hmem
    have hfile : file = some logPath := by
      simp only [logAgain, firstLog, List.mem_append, List.mem_cons, List.not_mem_nil, or_false,
        LogEvent.setUp.injEq, reduceCtorEq] at hmem
      exact hmem.elim And.right And.right
    rintro p hp
    exact ⟨_, Option.some.inj (hfile.symm.trans hp) ▸ writingPlace_logPath⟩
  obtain ⟨s, hrun⟩ := (run_delivers emptyPlace logAgain).1.mpr hopen
  obtain ⟨hcount, -, s₀, hrun₀, -, hlines⟩ :=
    (run_delivers emptyPlace logAgain).2 s hrun firstLog true (some logPath) [secondMessage] rfl
  obtain ⟨-, -, s₁, hstart, -, hlines₀⟩ :=
    (run_delivers emptyPlace firstLog).2 s₀ hrun₀ [] false (some logPath) [firstMessage] rfl
  obtain rfl := Except.ok.inj hstart
  have h := hlines (by decide)
  have h₀ := hlines₀ (by decide)
  have hsink : some ["log".toList] = sink emptyPlace (some logPath) :=
    (sink_eq writingPlace_logPath).symm
  refine ⟨s, hrun, hcount, ?_, ?_⟩
  · rw [h.screen, h₀.screen]
    decide
  · rw [h.content, h₀.content, if_pos hsink, if_pos hsink]
    decide

end Again

/-! ## One delivery

A program that sets up delivery once, and only then reports, needs to know no more of it than where
records go and from which level on. -/

theorem onScreen_records (d : Delivery) (ms : List LogMessage) :
    d.onScreen (ms.map (·.record)) = ms.flatMap (·.onScreen d.level) := by
  induction ms with
  | nil => rfl
  | cons m ms ih =>
    rw [List.flatMap_cons, ← ih, List.map_cons, Delivery.onScreen, List.filter_cons,
      LogMessage.onScreen]
    by_cases h : d.level.rank ≤ m.level.rank
    · have hadmits : d.admits m.record = true := decide_eq_true h
      rw [if_pos hadmits, if_pos h, List.flatMap_cons, Delivery.onScreen]
    · have hadmits : d.admits m.record = false := decide_eq_false h
      rw [hadmits, if_neg Bool.false_ne_true, if_neg h, List.nil_append, Delivery.onScreen]

theorem inFile_records (d : Delivery) {time : Text} {ms : List LogMessage}
    (htime : ∀ m ∈ ms, m.time = time) :
    Utf8.encode (d.inFile time (ms.map (·.record))) = ms.flatMap (·.inFile d.level) := by
  induction ms with
  | nil => rfl
  | cons m ms ih =>
    obtain ⟨hm, hms⟩ := List.forall_mem_cons.mp htime
    rw [List.flatMap_cons, ← ih hms, List.map_cons, Delivery.inFile, List.filter_cons,
      LogMessage.inFile, hm]
    by_cases h : d.level.rank ≤ m.level.rank
    · have hadmits : d.admits m.record = true := decide_eq_true h
      rw [if_pos hadmits, if_pos h, List.flatMap_cons, Utf8.encode, List.flatMap_append]
      rfl
    · have hadmits : d.admits m.record = false := decide_eq_false h
      rw [hadmits, if_neg Bool.false_ne_true, if_neg h, List.nil_append, Delivery.inFile]

theorem delivery_setUp_spec {w' : Workplace} {d : Delivery} {file : Option Path}
    (hd : Delivery.setUp w verbose file = .ok (w', d)) :
    d.level = .least verbose ∧ d.file = sink w file ∧
      w' = match d.file with
        | none => w
        | some place => w.append place [] := by
  cases file with
  | none =>
    obtain ⟨rfl, rfl⟩ := Prod.mk.inj (Except.ok.inj hd)
    exact ⟨rfl, rfl, rfl⟩
  | some p =>
    rw [Delivery.setUp] at hd
    cases hplace : w.writingPlace p with
    | error a => rw [hplace] at hd; cases hd
    | ok place =>
      rw [hplace] at hd
      obtain ⟨rfl, rfl⟩ := Prod.mk.inj (Except.ok.inj hd)
      exact ⟨rfl, (sink_eq hplace).symm, rfl⟩

/-- What a delivery shows and keeps of some records is what the outlets get when they are reported
one after the other. -/
theorem run_eq_delivery {w' : Workplace} {d : Delivery} {file : Option Path} {time : Text}
    {ms : List LogMessage} (hd : Delivery.setUp w verbose file = .ok (w', d))
    (htime : ∀ m ∈ ms, m.time = time) (hms : ∀ m ∈ ms, m.part.head? ≠ some '.')
    (hrun : run (start w) (.setUp verbose file :: ms.map .message) = .ok s) :
    s.outlets.length = d.count ∧ s.screen = d.onScreen (ms.map (·.record)) ∧
      ∀ place, s.content? place =
        (d.keep time (ms.map (·.record)) w').files.content? place := by
  obtain ⟨hlevel, hfile, hw'⟩ := delivery_setUp_spec hd
  obtain ⟨s₁, hstep, hmessages⟩ := run_cons_eq_ok_iff.mp hrun
  obtain ⟨hset₁, hdelivers₁, hsound₁, -⟩ := setUp_spec (sound_start w) hstep
  obtain ⟨hset, -, hdelivers⟩ := run_messages hset₁ hsound₁ hmessages
  have hlines := hdelivers₁.trans (hdelivers hms)
  rw [← hfile] at hset hlines
  refine ⟨hset.length_outlets, ?_, fun q => ?_⟩
  · rw [hlines.screen, onScreen_records, hlevel]
    rfl
  · rw [hlines.content, ← hlevel, ← inFile_records d htime, Delivery.keep, hw']
    cases hsome : d.file with
    | none => rfl
    | some place =>
      have hwritable := writable_of_sink (hfile.symm.trans hsome)
      have hmade : (w.append place []).files.content? place =
          some ((w.files.content? place).getD [] ++ []) := by
        rw [Workplace.content?_append hwritable, if_pos rfl]
      show _ = ((w.append place []).append place _).files.content? q
      rw [Workplace.content?_append (FileTree.writable_of_content? hmade),
        Workplace.content?_append hwritable]
      simp only [Option.some.injEq]
      split
      · rw [Option.getD_some, List.append_assoc]
        rfl
      · rfl

/-! ## Parts behind a dot -/

theorem report_of_not_reaches (time : Text) (r : LogRecord)
    (hroot : LogSource.reachesRoot (s.know r.source).known r.source = false) :
    s.report time r =
      if Level.warning.rank ≤ r.level.rank then
        (s.know r.source).display (r.message ++ ['\n'])
      else s.know r.source := by
  rw [report, leastOf, outletsOf, hroot, if_neg Bool.false_ne_true, if_neg Bool.false_ne_true]
  split
  · next h => rw [dispatch, if_pos h]
  · rfl

/-- The root with a dot behind it is the name of no part, so it is never known. -/
theorem root_dot_not_mem_known (h : Sound w s) (hs : root ++ ['.'] ∉ s.known)
    (hrun : s.run es = .ok s') : root ++ ['.'] ∉ s'.known := by
  have hknow : ∀ (s : Session) (part : Text), root ++ ['.'] ∉ s.known →
      root ++ ['.'] ∉ (s.know (sourceName part)).known := by
    intro s part hs hmem
    exact (mem_known_know.mp hmem).elim
      (fun he => LogSource.sourceName_ne_root_dot part he.symm) hs
  induction es generalizing s with
  | nil => exact Except.ok.inj hrun ▸ hs
  | cons e es ih =>
    obtain ⟨s₁, hstep, hrest⟩ := run_cons_eq_ok_iff.mp hrun
    refine ih (h.step hstep) ?_ hrest
    cases e with
    | setUp verbose file =>
      cases file with
      | none =>
        obtain rfl := Except.ok.inj hstep
        exact hknow s [] hs
      | some p =>
        obtain ⟨place, -, rfl⟩ := (setUp_some_eq_ok_iff h).mp hstep
        exact hknow s [] hs
    | message m =>
      obtain rfl := Except.ok.inj hstep
      rw [(sameOutlets_report m.time m.record s).known]
      exact hknow s m.part hs

/-- However delivery is set up, a message of a part whose name begins with one dot gets no line: it
is shown without level when it is a warning or worse, and else it is lost. -/
theorem report_dotted (hrun : run (start w) es = .ok s) (hm : m.part.head? = some '.')
    (hm' : m.part.tail.head? ≠ some '.') :
    (s.report m.time m.record).workplace = s.workplace ∧
      (s.report m.time m.record).screen =
        s.screen ++ if Level.warning.rank ≤ m.level.rank then m.text ++ ['\n'] else [] := by
  have hknown : root ++ ['.'] ∉ (s.know m.record.source).known := by
    intro hmem
    rcases mem_known_know.mp hmem with he | hmem
    · exact LogSource.sourceName_ne_root_dot m.part he.symm
    · exact root_dot_not_mem_known (sound_start w) List.not_mem_nil hrun hmem
  have hdotted : LogSource.Dotted m.record.source := by
    obtain ⟨r, hr⟩ := List.head?_eq_some_iff.mp hm
    rw [hr] at hm'
    show LogSource.Dotted (sourceName m.part)
    rw [hr]
    exact LogSource.dotted_sourceName hm'
  have hroot := LogSource.reachesRoot_dotted hknown hdotted
  have hlevel : m.record.level = m.level := rfl
  rw [report_of_not_reaches m.time m.record hroot, hlevel]
  split
  · exact ⟨workplace_know _ s, congrArg (· ++ _) (screen_know _ s)⟩
  · exact ⟨workplace_know _ s, by rw [screen_know, List.append_nil]⟩

/-- So not every message is delivered that is urgent enough. -/
theorem not_run_delivers :
    ¬ ∀ (w : Workplace) (es : List LogEvent) (s : Session), run (start w) es = .ok s →
      ∀ (before : List LogEvent) (verbose : Bool) (file : Option Path) (ms : List LogMessage),
        es = before ++ .setUp verbose file :: ms.map .message →
        ∃ s₀, run (start w) before = .ok s₀ ∧
          Delivers (sink w file) (ms.flatMap (·.onScreen (.least verbose)))
            (ms.flatMap (·.inFile (.least verbose))) s₀ s := by
  intro h
  let m : LogMessage := ⟨[], ".x".toList, .info, "m".toList⟩
  let s := (start emptyPlace).reset false
  have hrun : run (start emptyPlace) [.setUp false none] = .ok s := rfl
  obtain ⟨s₀, hstart, hdelivers⟩ := h emptyPlace [.setUp false none, .message m]
    (s.report m.time m.record) rfl [] false none [m] rfl
  obtain rfl := Except.ok.inj hstart
  have hlost := (report_dotted (m := m) hrun (by decide) (by decide)).2
  have hshown := hdelivers.screen
  rw [hlost] at hshown
  exact absurd hshown (by decide)

end Session

end Docblock
