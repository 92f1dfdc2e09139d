import FleetScore.Proofs.Artifact.FailedExport
import FleetScore.Proofs.Pipeline.Courses

/-!
# The artifacts are those of the last run that exported

Several runs share one directory, one after the other.  A run touches the files in one place only,
when it exports; so it leaves them as they are, or it finishes an export, or it fails at the files
(`run?_leaves`).  Where no run fails at the files, what the directory holds after any number of
runs is what the latest finished export wrote, and before the first of them nothing has happened at
all (`holds_latest`).

The runs need not be of one process.  Each is given the metrics that its process has gathered, and
they have no influence on the files.
-/

namespace FleetScore

/-! ## 1.  What an export returns -/

namespace Exporter

open FileTree Plan

/-- **An export finishes all files, or is blocked and does nothing, or fails at the files.** -/
theorem run_leaves (e : Exporter) (t : Training.Trained Float) (now : Instant)
    (files : FileTree) :
    (∃ summary, (e.run t now files).result = .ok summary ∧
        ∀ r ∈ e.replacements (contents t now), r.IsDone (e.run t now files).files) ∨
      (∃ difference, (e.run t now files).result = .error (.featureSetMismatch difference) ∧
        (e.run t now files).files = files) ∨
      ∃ path fault, (e.run t now files).result = .error (.artifact path fault) := by
  obtain ⟨d, -, hrun⟩ | ⟨-, ⟨path, fault, -, hrun⟩ | ⟨hfault, hrun⟩⟩ := e.run_cases t now files
  · rw [hrun]
    exact .inr (.inl ⟨d, rfl, rfl⟩)
  · rw [hrun]
    exact .inr (.inr ⟨path, fault, rfl⟩)
  · rw [hrun]
    dsimp only
    refine .inl ⟨_, rfl, ?_⟩
    rcases interrupted_run (e.plan (contents t now) files) files with
      ⟨-, hdone⟩ | ⟨p, rest, fault, hsome, -⟩
    · obtain ⟨done, pending, hprogress⟩ := exists_progress hdone
      intro r hr
      refine hprogress.complete r ?_
      rwa [hprogress.split, hprogress.finished rfl, List.append_nil] at hr
    · rw [hfault] at hsome
      cases hsome

end Exporter

/-! ## 2.  What a run leaves -/

namespace RunOutcome

/-- What a run exported: the contents of the files, for a run that finished with a dataset. -/
def exported? (o : RunOutcome) (now : Instant) : Option Exporter.Contents :=
  match o.result with
  | .error _ => none
  | .ok report =>
      match report.dataset with
      | .empty => none
      | .populated _ => report.trained.map fun t => Exporter.contents t now

/-- Whether a run failed at the files. -/
def FailedAtFiles (o : RunOutcome) : Prop :=
  ∃ path fault, o.result = .error (.artifact path fault)

/-- How a run with an exporter may leave some files: it exported to all three, or it failed at
them, or it did neither and left them as they were. -/
inductive Leaves (e : Exporter) (now : Instant) (before : FileTree) (o : RunOutcome) : Prop
  | exported (report : RunReport) (rows : Nat) (t : Training.Trained Float)
      (hresult : o.result = .ok report) (hdataset : report.dataset = .populated rows)
      (htrained : report.trained = some t)
      (hdone : ∀ r ∈ e.replacements (Exporter.contents t now), r.IsDone o.state.files)
  | failed (h : o.FailedAtFiles)
  | untouched (hresult : (∃ report, o.result = .ok report ∧ report.dataset = .empty) ∨
        ∃ failure, o.result = .error failure ∧ ∀ path fault, failure ≠ .artifact path fault)
      (hfiles : o.state.files = before)

/-- A run that finished without a dataset, or failed elsewhere, is neither of the first two. -/
theorem Leaves.files_eq {e : Exporter} {now : Instant} {before : FileTree} {o : RunOutcome}
    (h : Leaves e now before o)
    (hresult : (∃ report, o.result = .ok report ∧ report.dataset = .empty) ∨
      ∃ failure, o.result = .error failure ∧ ∀ path fault, failure ≠ .artifact path fault) :
    o.state.files = before := by
  cases h with
  | untouched _ hfiles => exact hfiles
  | exported report rows t hok hdataset =>
    rw [hok] at hresult
    obtain ⟨report', hsame, hempty⟩ | ⟨failure, hsame, -⟩ := hresult
    · cases hsame
      rw [hdataset] at hempty
      cases hempty
    · cases hsame
  | failed hfailed =>
    obtain ⟨path, fault, hfailed⟩ := hfailed
    rw [hfailed] at hresult
    obtain ⟨report, hsame, -⟩ | ⟨failure, hsame, hother⟩ := hresult
    · cases hsame
    · exact absurd (Except.error.inj hsame).symm (hother path fault)

end RunOutcome

/-- **A run leaves the files as they are, or exports to all of them, or fails at them.** -/
theorem Pipeline.run?_leaves {p : Pipeline} {clock : Clock} {s : ProcessState} {o : RunOutcome}
    (h : p.run? clock s = some o) :
    RunOutcome.Leaves p.exporter clock.exported s.files o := by
  obtain ⟨e, hcourse, rfl⟩ := run?_course h
  cases hcourse with
  | empty _ => exact .untouched (.inl ⟨_, rfl, rfl⟩) rfl
  | unavailable _ | diverged _ _ | blocked _ _ _ =>
    refine .untouched (.inr ⟨_, rfl, ?_⟩) rfl
    intro path fault hfailure
    cases hfailure
  | obstructed _ _ _ => exact .failed ⟨_, _, rfl⟩
  | @exported rows _ t _ files _ _ hexport =>
    refine .exported _ _ t rfl rfl rfl ?_
    obtain ⟨_, -, hdone⟩ | ⟨_, hresult, -⟩ | ⟨_, _, hresult⟩ :=
      p.exporter.run_leaves t clock.exported s.files
    · rw [hexport] at hdone
      exact hdone
    · rw [hexport] at hresult
      cases hresult
    · rw [hexport] at hresult
      cases hresult

/-! ## 3.  Several runs -/

/-- A run as it is started: the pipeline, the readings of its clock, and what the metrics of its
process are at its beginning. -/
structure Launch where
  pipeline : Pipeline
  clock : Clock
  metrics : Metrics

namespace Launch

/-- The outcome of a run on some files, if it has one. -/
def outcome? (l : Launch) (files : FileTree) : Option RunOutcome :=
  l.pipeline.run? l.clock ⟨files, l.metrics⟩

end Launch

/-- Files, with the contents that the latest finished export wrote there, if there was one. -/
structure Archive where
  files : FileTree
  latest : Option Exporter.Contents

namespace Archive

/-- The archive after a run.  A run without an outcome has done nothing. -/
def next (a : Archive) (l : Launch) : Archive :=
  match l.outcome? a.files with
  | none => a
  | some o => ⟨o.state.files, (o.exported? l.clock.exported).or a.latest⟩

/-- The archive after several runs. -/
def after (a : Archive) (launches : List Launch) : Archive := launches.foldl next a

/-- Whether none of several runs fails at the files. -/
def NeverFails : Archive → List Launch → Prop
  | _, [] => True
  | a, l :: launches =>
      (∀ o, l.outcome? a.files = some o → ¬ o.FailedAtFiles) ∧ NeverFails (a.next l) launches

/-- Whether the files at a place are those of an archive: the three files hold what the latest
export wrote, and the manifest carries the digest of the model; before the first export, the files
are the ones from the start. -/
def Holds (a : Archive) (place : Place) (start : FileTree) : Prop :=
  match a.latest with
  | none => a.files = start
  | some c =>
      a.files.bytesAt? (place ++ [Exporter.modelFile]) = some c.model ∧
      a.files.bytesAt? (place ++ [Exporter.scalerFile]) = some c.scaler ∧
      a.files.bytesAt? (place ++ [Exporter.manifestFile]) = some c.manifest ∧
      Exporter.CarriesDigest c.manifest (Sha256.checksum c.model)

theorem holds_of_isDone {e : Exporter} {c : Exporter.Contents} {files start : FileTree}
    (hdigest : Exporter.CarriesDigest c.manifest (Sha256.checksum c.model))
    (h : ∀ r ∈ e.replacements c, r.IsDone files) :
    Holds ⟨files, some c⟩ e.dir.place start := by
  have hmodel := h (e.modelReplacement c) (by simp [Exporter.replacements])
  have hscaler := h (e.scalerReplacement c) (by simp [Exporter.replacements])
  have hmanifest := h (e.manifestReplacement c) (by simp [Exporter.replacements])
  have hplace : ∀ name ∈ Exporter.fileNames, (e.dir.child name).place = e.dir.place ++ [name] :=
    fun name hname => Exporter.place_child_of_mem e.dir hname
  refine ⟨?_, ?_, ?_, hdigest⟩
  · rw [← hplace _ (by decide)]
    exact FileTree.bytesAt?_of_find? hmodel
  · rw [← hplace _ (by decide)]
    exact FileTree.bytesAt?_of_find? hscaler
  · rw [← hplace _ (by decide)]
    exact FileTree.bytesAt?_of_find? hmanifest

/-- **One run keeps an archive in order**, if it does not fail at the files. -/
theorem holds_next {a : Archive} {l : Launch} {start : FileTree}
    (h : a.Holds l.pipeline.exporter.dir.place start)
    (hclean : ∀ o, l.outcome? a.files = some o → ¬ o.FailedAtFiles) :
    (a.next l).Holds l.pipeline.exporter.dir.place start := by
  rw [next]
  cases houtcome : l.outcome? a.files with
  | none => exact h
  | some o =>
    cases Pipeline.run?_leaves houtcome with
    | exported report rows t hresult hdataset htrained hdone =>
      have hexported : o.exported? l.clock.exported =
          some (Exporter.contents t l.clock.exported) := by
        simp only [RunOutcome.exported?, hresult, hdataset, htrained, Option.map_some]
      simp only [hexported, Option.some_or]
      exact holds_of_isDone (Exporter.carriesDigest_contents t _) hdone
    | failed hfailed => exact absurd hfailed (hclean o houtcome)
    | untouched hresult hfiles =>
      have hexported : o.exported? l.clock.exported = none := by
        rcases hresult with ⟨report, hresult, hdataset⟩ | ⟨failure, hresult, -⟩
        · simp only [RunOutcome.exported?, hresult, hdataset]
        · simp only [RunOutcome.exported?, hresult]
      have hsame : o.state.files = a.files := hfiles
      simp only [hexported, Option.none_or, hsame]
      exact h

theorem holds_after {place : Place} {start : FileTree} {launches : List Launch} {a : Archive}
    (h : a.Holds place start) (hclean : a.NeverFails launches)
    (hplace : ∀ l ∈ launches, l.pipeline.exporter.dir.place = place) :
    (a.after launches).Holds place start := by
  induction launches generalizing a with
  | nil => exact h
  | cons l launches ih =>
    have hl := hplace l List.mem_cons_self
    subst hl
    exact ih (holds_next h hclean.1) hclean.2 fun l' hl' => hplace l' (List.mem_cons_of_mem l hl')

theorem NeverFails.take {launches : List Launch} {a : Archive} (h : a.NeverFails launches)
    (n : Nat) : a.NeverFails (launches.take n) := by
  induction launches generalizing a n with
  | nil => simpa using h
  | cons l launches ih =>
    cases n with
    | zero => trivial
    | succ n => exact ⟨h.1, ih h.2 n⟩

end Archive

/-- **The artifacts are always those of the last run that exported.**  After any number of runs of
which none fails at the files, a directory that they share holds what the latest of them wrote that
finished with a dataset, and manifest and model belong together; before the first such run, the
files are as they were at the start.  And a run that finishes without a dataset, or fails other
than at the files, changes nothing. -/
theorem holds_latest (place : Place) (start : FileTree) (launches : List Launch)
    (hplace : ∀ l ∈ launches, l.pipeline.exporter.dir.place = place)
    (hclean : Archive.NeverFails ⟨start, none⟩ launches) :
    (∀ n, (Archive.after ⟨start, none⟩ (launches.take n)).Holds place start) ∧
      ∀ (p : Pipeline) (clock : Clock) (s : ProcessState) (o : RunOutcome),
        p.run? clock s = some o →
        ((∃ report, o.result = .ok report ∧ report.dataset = .empty) ∨
          ∃ failure, o.result = .error failure ∧ ∀ path fault, failure ≠ .artifact path fault) →
        o.state.files = s.files := by
  constructor
  · intro n
    exact Archive.holds_after rfl (hclean.take n) fun l hl => hplace l (List.mem_of_mem_take hl)
  · intro p clock s o hrun hresult
    exact (Pipeline.run?_leaves hrun).files_eq hresult

/-! ## 4.  Five runs on one directory -/

/-- A store with one request, one snapshot of its server, and the record of the server. -/
def singleStore (unavailable : Option String) (requests : List (Request Float)) :
    MemoryStore Float where
  settings := .standard
  requests := requests
  snapshots := [⟨7, Exporter.sampleInstant, 50, 25, 3⟩]
  servers := [⟨7, 100, none⟩]
  now := Exporter.sampleInstant
  unavailable := unavailable

/-- A run on such a store. -/
def singleLaunch (unavailable : Option String) (requests : List (Request Float)) : Launch where
  pipeline := ⟨.memory (singleStore unavailable requests), ⟨⟨1, 0.01, 0.01⟩, 5⟩, ⟨⟨"out"⟩, none⟩⟩
  clock := ⟨Exporter.sampleInstant, Exporter.sampleInstant, Span.ofSeconds 1⟩
  metrics := ⟨.empty, 0, 0, 0, 0, 0, 0, 0.0⟩

/-- A database that gives a reply. -/
def sampleDatabase (reply : Database.Reply Float) : Source Float :=
  .database { StoreSettings.standard with credentials := ⟨"postgres://fleet"⟩ } reply

/-- The same run on such a database. -/
def databaseLaunch (reply : Database.Reply Float) : Launch :=
  { singleLaunch none [] with
    pipeline := { (singleLaunch none []).pipeline with source := sampleDatabase reply } }

/-- A reply with one row. -/
def sampleReply : Database.Reply Float :=
  .answered [⟨3, 7, some 50, some 25, some 3, 100, none, 40, Exporter.sampleInstant, false,
    some Exporter.sampleInstant⟩] (.ofSeconds 1)

/-- A run that cannot read its source, one that trains and exports, one without requests, one whose
database takes too long, and one whose database answers. -/
def sampleLaunches : List Launch := [
  singleLaunch (some "maintenance") [],
  singleLaunch none [⟨3, 7, Exporter.sampleInstant, 40, .failure⟩],
  singleLaunch none [],
  databaseLaunch .overdue,
  databaseLaunch sampleReply]

/-- Whether a run failed at the files, as a test. -/
def RunOutcome.failedAtFiles (o : RunOutcome) : Bool :=
  match o.result with
  | .error (.artifact _ _) => true
  | _ => false

theorem RunOutcome.not_failedAtFiles {o : RunOutcome} (h : o.failedAtFiles = false) :
    ¬ o.FailedAtFiles := by
  rintro ⟨path, fault, hresult⟩
  simp [failedAtFiles, hresult] at h

theorem not_failedAtFiles_of_all {l : Launch} {files : FileTree}
    (h : (l.outcome? files).all (fun o => !o.failedAtFiles) = true) :
    ∀ o, l.outcome? files = some o → ¬ o.FailedAtFiles := by
  intro o ho
  rw [ho] at h
  exact RunOutcome.not_failedAtFiles (by simpa using h)

/-- The sample starts with old files in the directory.  The first run leaves them; after the second
the directory holds what it wrote, and still does after the two that follow; and the run on the
database that answers exports once more. -/
theorem holds_latest_sampleLaunches :
    (∀ l ∈ sampleLaunches, l.pipeline.exporter.dir.place = ["out"]) ∧
      Archive.NeverFails ⟨Exporter.sampleFiles, none⟩ sampleLaunches ∧
      (∀ n, (Archive.after ⟨Exporter.sampleFiles, none⟩ (sampleLaunches.take n)).Holds ["out"]
        Exporter.sampleFiles) ∧
      (Archive.after ⟨Exporter.sampleFiles, none⟩ (sampleLaunches.take 1)).latest.isSome = false ∧
      (Archive.after ⟨Exporter.sampleFiles, none⟩ (sampleLaunches.take 4)).latest.isSome = true ∧
      ((databaseLaunch sampleReply).outcome? Exporter.sampleFiles).any (fun o =>
        (o.exported? Exporter.sampleInstant).isSome) = true := by
  have hplace : ∀ l ∈ sampleLaunches, l.pipeline.exporter.dir.place = ["out"] := by
    simp only [sampleLaunches, List.forall_mem_cons, List.not_mem_nil, false_imp_iff, implies_true,
      and_true]
    exact ⟨rfl, rfl, rfl, rfl, rfl⟩
  have hclean : Archive.NeverFails ⟨Exporter.sampleFiles, none⟩ sampleLaunches :=
    ⟨not_failedAtFiles_of_all (by decide +kernel), not_failedAtFiles_of_all (by decide +kernel),
      not_failedAtFiles_of_all (by decide +kernel), not_failedAtFiles_of_all (by decide +kernel),
      not_failedAtFiles_of_all (by decide +kernel), trivial⟩
  exact ⟨hplace, hclean, (holds_latest _ _ _ hplace hclean).1, by decide +kernel, by decide +kernel,
    by decide +kernel⟩

end FleetScore
