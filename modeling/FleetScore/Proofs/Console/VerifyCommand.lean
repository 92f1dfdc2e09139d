import FleetScore.Console.Program
import FleetScore.Proofs.Artifact.ExportPlan
import FleetScore.Proofs.Artifact.ParityChecks
import FleetScore.Proofs.Manifest.ManifestLayouts
import FleetScore.Proofs.Storage.AbsentFiles

/-!
# What the check of a manifest says to an operator

An operator asks for a manifest to be checked and gets an exit code, a document if one was asked
for, and perhaps complaints.  A deployment goes by the exit code, so it must be zero for manifests
in parity and for nothing else: not for a file that is missing, not for one that is no manifest, and
not for a manifest with a difference that happens to tell nothing.

`Console.run?_verify` says what comes of every path and every content of the files.  It is put
together from three parts, and `Console.Shows` is what they come to.

* A file *holds* a manifest if its bytes are a text, the text is a strict document, and the document
  is a manifest in one of its two layouts (`FeatureManifest.HoldsManifest`).  This is when it is
  loaded (`FeatureManifest.load_eq_ok_iff`); and it is reported missing exactly if it is absent
  (`FeatureManifest.load_eq_missing_iff`).
* The names of a manifest differ from the canonical ones by what `TellsNames` says, and the
  difference is empty exactly for rearrangements of the canonical names (`tellsNames_difference`).
* The answer to a check is a document that is read back (`Console.Screen.readStrict?_verdict`).
-/

namespace FleetScore

/-! ## 1.  Files that hold a manifest -/

namespace FeatureManifest

/-- Whether a file holds a manifest. -/
def HoldsManifest (files : FileTree) (path : Path) (m : FeatureManifest) : Prop :=
  ∃ bytes text j, files.read path = .ok bytes ∧ String.fromUTF8? bytes = some text ∧
    Json.readStrict? text = some j ∧ IsManifest j m

variable {files : FileTree} {path : Path} {m : FeatureManifest}

/-- **A manifest is loaded exactly if the file holds it.** -/
theorem load_eq_ok_iff : load files path = .ok m ↔ HoldsManifest files path m := by
  have hloads : load files path = .ok m ↔
      ∃ text, files.readText path = .ok text ∧ ofText text = .ok m := by
    rw [load]
    cases hread : files.readText path with
    | ok text => simp
    | error fault => cases fault <;> simp
  rw [hloads]
  simp only [FileTree.readText_eq_ok_iff, ofText_eq_ok_iff]
  constructor
  · rintro ⟨text, ⟨bytes, hbytes, htext⟩, j, hj, hm⟩
    exact ⟨bytes, text, j, hbytes, htext, hj, hm⟩
  · rintro ⟨bytes, text, j, hbytes, htext, hj, hm⟩
    exact ⟨text, ⟨bytes, hbytes, htext⟩, j, hj, hm⟩

theorem ofText_error {text : String} {failure : Failure} (h : ofText text = .error failure) :
    ∃ fault, failure = .manifestInvalid fault := by
  rw [ofText] at h
  split at h
  · exact ⟨_, (Except.error.inj h).symm⟩
  · split at h
    · exact ⟨_, (Except.error.inj h).symm⟩
    · split at h
      · cases h
      · exact ⟨_, (Except.error.inj h).symm⟩

/-- **There are three reasons why a manifest is not loaded**: its file is missing, or cannot be
read, or holds something else. -/
theorem load_error {failure : Failure} (h : load files path = .error failure) :
    failure = .manifestMissing path ∨ (∃ fault, failure = .artifact path fault) ∨
      ∃ fault, failure = .manifestInvalid fault := by
  rw [load] at h
  split at h
  · exact .inr (.inr (ofText_error h))
  · exact .inl (Except.error.inj h).symm
  · exact .inr (.inl ⟨_, (Except.error.inj h).symm⟩)

/-- **A manifest is missing exactly if its file is absent.** -/
theorem load_eq_missing_iff :
    load files path = .error (.manifestMissing path) ↔ files.IsAbsent path := by
  rw [← FileTree.readText_eq_notFound_iff, load]
  constructor
  · intro h
    split at h
    · obtain ⟨fault, hfault⟩ := ofText_error h
      cases hfault
    · assumption
    · cases h
  · intro h
    rw [h]

end FeatureManifest

/-! ## 2.  Differences from the canonical names -/

/-- Whether a difference tells how some names differ from the canonical ones, in ascending order
and each of them once: missing are the canonical names that are not listed, and too many are the
listed names that are not canonical, or are repeated. -/
structure TellsNames (names : List String) (d : NameDifference) : Prop where
  missing_pairwise : d.missing.Pairwise (· < ·)
  extra_pairwise : d.extra.Pairwise (· < ·)
  mem_missing : ∀ n, n ∈ d.missing ↔ n ∈ FeatureName.names ∧ n ∉ names
  mem_extra : ∀ n, n ∈ d.extra ↔ n ∈ names ∧ (n ∉ FeatureName.names ∨ 2 ≤ names.count n)
  eq_nil_iff : d.missing = [] ∧ d.extra = [] ↔ names.Perm FeatureName.names

theorem tellsNames_difference (names : List String) :
    TellsNames names (Parity.difference FeatureName.names names) := by
  have htells := Parity.tells_difference FeatureName.names names
  constructor
  · exact htells.missing_pairwise
  · exact htells.extra_pairwise
  · intro n
    have honce : ¬ 2 ≤ FeatureName.names.count n :=
      Nat.not_le.mpr (Nat.lt_succ_of_le (List.nodup_iff_count_le_one.mp FeatureName.names_nodup n))
    rw [htells.mem_missing]
    exact or_iff_left honce
  · intro n
    have hlisted : 2 ≤ names.count n → n ∈ names :=
      fun h => List.count_pos_iff.mp (by omega)
    rw [htells.mem_extra, and_or_left, and_iff_right_of_imp hlisted]
  · exact htells.eq_nil_iff.trans FeatureName.inParity_names_iff

/-! ## 3.  Answers -/

namespace Console

theorem Transcript.output_line (exitCode : Nat) (line : String) (complaints : List String) :
    (⟨exitCode, [line], complaints⟩ : Transcript).output = line ++ "\n" := by
  simp [output, textOf, String.join]

namespace Screen

/-- The document that answers a check. -/
def answer (path : Path) (ok : Bool) (d : NameDifference) : Json :=
  .record [
    ("manifest", .text path.text),
    ("ok", .bool ok),
    ("missing", Json.list Json.text d.missing),
    ("extra", Json.list Json.text d.extra)]

theorem exitCode_verdict (s : Screen) (path : Path) (ok : Bool) (d : NameDifference) :
    (s.verdict path ok d).exitCode = if ok then 0 else 1 := by
  rw [verdict]
  cases s.format <;> cases ok <;> rfl

/-- **What a check shows to programs is its answer**, and there are no complaints beside it. -/
theorem readStrict?_verdict {s : Screen} (hjson : s.format = .json) (path : Path) (ok : Bool)
    (d : NameDifference) :
    Json.readStrict? (s.verdict path ok d).output = some (answer path ok d) ∧
      (s.verdict path ok d).complaints = [] := by
  have hverdict : s.verdict path ok d = ⟨if ok then 0 else 1, [(answer path ok d).pretty], []⟩ := by
    rw [verdict, hjson]
    rfl
  have hmembers : ∀ member ∈ [("manifest", Json.text path.text), ("ok", .bool ok),
      ("missing", Json.list Json.text d.missing), ("extra", Json.list Json.text d.extra)],
      Json.IsWritable member.2 ∧ member.2.isStrict 126 = true := by
    have hnames (names : List String) := And.intro (Json.isWritable_texts names)
      (Json.isStrict_texts 125 names)
    simp only [List.forall_mem_cons]
    refine ⟨⟨Json.isWritable_text _, rfl⟩, ⟨trivial, rfl⟩, hnames _, hnames _, ?_⟩
    exact List.forall_mem_nil _
  have hread := Json.readStrict?_line
    (Json.isWritable_record fun member hmember => (hmembers member hmember).1)
    (Json.isStrict_record fun member hmember => (hmembers member hmember).2)
  rw [hverdict, Transcript.output_line]
  exact ⟨hread, rfl⟩

variable {s : Screen} {files : FileTree} {path : Path}

/-- **A manifest that is held by its file is answered for.** -/
theorem verify_of_holds {m : FeatureManifest} (h : m.HoldsManifest files path) :
    s.verify files path =
      s.verdict path (decide (m.features.Perm FeatureName.names))
        (Parity.difference FeatureName.names m.features) := by
  have htells := tellsNames_difference m.features
  rw [verify, FeatureManifest.verifyFile_eq, FeatureManifest.load_eq_ok_iff.mpr h]
  by_cases hperm : m.features.Perm FeatureName.names
  · obtain ⟨hmissing, hextra⟩ := htells.eq_nil_iff.mpr hperm
    have hdifference : Parity.difference FeatureName.names m.features = ⟨[], []⟩ := by
      cases hd : Parity.difference FeatureName.names m.features with
      | mk missing extra =>
        rw [hd] at hmissing hextra
        subst hmissing hextra
        rfl
    rw [decide_eq_true hperm, hdifference, Except.bind,
      FeatureManifest.verify_eq_ok_iff.mpr hperm]
    rfl
  · have hverify : m.verify =
        .error (.featureSetMismatch (Parity.difference FeatureName.names m.features)) :=
      FeatureManifest.verify_eq_error_iff.mpr
        (Parity.verify_eq_error (mt FeatureName.inParity_names_iff.mp hperm))
    rw [decide_eq_false hperm, Except.bind, hverify]
    rfl

/-- **Without a manifest there is no answer**, and the reason is not that names differ. -/
theorem verify_of_error {failure : Failure}
    (h : FeatureManifest.load files path = .error failure) :
    s.verify files path = .failure failure.message := by
  rw [verify, FeatureManifest.verifyFile_eq, h]
  obtain rfl | ⟨fault, rfl⟩ | ⟨fault, rfl⟩ := FeatureManifest.load_error h <;> rfl

end Screen

/-! ## 4.  What is shown -/

/-- Whether this is shown of the manifest at a path.

* The exit code is zero exactly if the file holds a manifest that lists the canonical names in some
  order, each of them once.
* If the file holds any manifest, the answer tells how its names differ: it is shown as a document
  if one was asked for, it says yes exactly if nothing is missing and nothing too many, and
  otherwise the exit code is one.
* If it holds none, there is a complaint and nothing else, and the exit code is one. -/
structure Shows (files : FileTree) (path : Path) (format : OutputFormat) (t : Transcript) :
    Prop where
  exitCode_eq_zero_iff : t.exitCode = 0 ↔
    ∃ m : FeatureManifest, m.HoldsManifest files path ∧ m.features.Perm FeatureName.names
  answers : ∀ m : FeatureManifest, m.HoldsManifest files path →
    ∃ ok d, TellsNames m.features d ∧ (ok = true ↔ d.missing = [] ∧ d.extra = []) ∧
      t.exitCode = (if ok then 0 else 1) ∧
      (format = .json → Json.readStrict? t.output = some (Screen.answer path ok d) ∧
        t.complaints = [])
  complains : (¬ ∃ m : FeatureManifest, m.HoldsManifest files path) →
    ∃ failure, FeatureManifest.load files path = .error failure ∧
      t = ⟨1, [], ["Error: " ++ failure.message]⟩

theorem shows_verify (s : Screen) (files : FileTree) (path : Path) :
    Shows files path s.format (s.verify files path) where
  exitCode_eq_zero_iff := by
    constructor
    · intro hzero
      cases hload : FeatureManifest.load files path with
      | error failure =>
        rw [Screen.verify_of_error hload] at hzero
        cases hzero
      | ok m =>
        have hholds := FeatureManifest.load_eq_ok_iff.mp hload
        rw [Screen.verify_of_holds hholds, Screen.exitCode_verdict] at hzero
        refine ⟨m, hholds, ?_⟩
        by_contra hperm
        rw [decide_eq_false hperm] at hzero
        cases hzero
    · rintro ⟨m, hholds, hperm⟩
      rw [Screen.verify_of_holds hholds, Screen.exitCode_verdict, decide_eq_true hperm]
      rfl
  answers m hholds := by
    have htells := tellsNames_difference m.features
    rw [Screen.verify_of_holds hholds]
    refine ⟨_, _, htells, ?_, Screen.exitCode_verdict _ _ _ _, ?_⟩
    · rw [htells.eq_nil_iff]
      exact decide_eq_true_iff
    · intro hjson
      exact Screen.readStrict?_verdict hjson _ _ _
  complains hnone := by
    cases hload : FeatureManifest.load files path with
    | ok m => exact absurd ⟨m, FeatureManifest.load_eq_ok_iff.mp hload⟩ hnone
    | error failure => exact ⟨failure, rfl, Screen.verify_of_error hload⟩

/-! ## 5.  The command -/

/-- After a double dash a path is taken as it is. -/
theorem giveAll_path (make : Path → Command) (formats : List (Option OutputFormat)) {path : Path}
    (hne : path.text ≠ "") :
    (⟨.command make, formats, false, true, none⟩ : Reading).giveAll [path.text] =
      .ok ⟨.command make, formats, false, true, some path⟩ := by
  have hgive : (⟨.command make, formats, false, true, none⟩ : Reading).give path.text =
      .ok ⟨.command make, formats, false, true, some path⟩ := if_neg hne
  rw [Reading.giveAll, if_neg (by simp [Position.hasHelp]), hgive]
  rfl

/-- Without one it is taken if it does not begin with a dash. -/
theorem giveAll_plainPath (make : Path → Command) (formats : List (Option OutputFormat))
    {path : Path} (hne : path.text ≠ "") (hdash : path.text.toList.head? ≠ some '-') :
    (⟨.command make, formats, false, false, none⟩ : Reading).giveAll [path.text] =
      .ok ⟨.command make, formats, false, false, some path⟩ := by
  have hgive : (⟨.command make, formats, false, false, none⟩ : Reading).give path.text =
      .ok ⟨.command make, formats, false, false, some path⟩ := by
    show Reading.giveOther _ _ = _
    rw [Reading.giveOther]
    split
    · rename_i h
      simp [h] at hdash
    · rename_i h
      simp [h] at hdash
    · rename_i h
      simp [h] at hdash
    · exact if_neg hne
  rw [Reading.giveAll, if_neg (by simp [Position.hasHelp]), hgive]
  rfl

/-- **Every path can be asked about**, with either format after a double dash, and also without one
if it does not begin with a dash. -/
theorem parse_verify {path : Path} (hne : path.text ≠ "") :
    parse none ["verify", "--", path.text] = .ok ⟨.verify path, .table⟩ ∧
      parse none ["--format", "json", "verify", "--", path.text] = .ok ⟨.verify path, .json⟩ ∧
      (path.text.toList.head? ≠ some '-' →
        parse none ["verify", path.text] = .ok ⟨.verify path, .table⟩) := by
  refine ⟨?_, ?_, ?_⟩
  · have hread : Reading.start.giveAll ["verify", "--", path.text] =
        (⟨.command .verify, [none, none], false, true, none⟩ : Reading).giveAll [path.text] := rfl
    rw [parse, hread, giveAll_path _ _ hne]
    rfl
  · have hread : Reading.start.giveAll ["--format", "json", "verify", "--", path.text] =
        (⟨.command .verify, [none, some .json], false, true, none⟩ : Reading).giveAll
          [path.text] := rfl
    rw [parse, hread, giveAll_path _ _ hne]
    rfl
  · intro hdash
    have hread : Reading.start.giveAll ["verify", path.text] =
        (⟨.command .verify, [none, none], false, false, none⟩ : Reading).giveAll [path.text] := rfl
    rw [parse, hread, giveAll_plainPath _ _ hne hdash]
    rfl

/-- **What the check of a manifest says**, of any path and on any files.  Every path that has a text
can be asked about, with either format.  Whatever line asks for the manifest at a path to be checked
has an outcome, and shows what is to be shown.  And the complaint is that there is no manifest exactly
if the file is absent. -/
theorem run?_verify (path : Path) (files : FileTree) :
    (path.text ≠ "" →
      parse none ["verify", "--", path.text] = .ok ⟨.verify path, .table⟩ ∧
      parse none ["--format", "json", "verify", "--", path.text] = .ok ⟨.verify path, .json⟩ ∧
      (path.text.toList.head? ≠ some '-' →
        parse none ["verify", path.text] = .ok ⟨.verify path, .table⟩)) ∧
    (∀ {env : List (String × String)} {arguments : List String} {format : OutputFormat},
      parse (env.lookup formatVariable) arguments = .ok ⟨.verify path, format⟩ →
        ∃ t, run? env arguments files = some t ∧ Shows files path format t) ∧
    (FeatureManifest.load files path = .error (.manifestMissing path) ↔ files.IsAbsent path) := by
  refine ⟨parse_verify, fun {env arguments format} hparse => ?_,
    FeatureManifest.load_eq_missing_iff⟩
  have hrun : run? env arguments files =
      some (Screen.verify ⟨format, coloursOf env⟩ files path) := by
    rw [run?, hparse]
    rfl
  exact ⟨_, hrun, shows_verify ⟨format, coloursOf env⟩ files path⟩

/-! ### Three files of one deployment -/

/-- A list of the canonical names in another order, and a manifest that repeats one of two names. -/
def checkedFiles : FileTree := ⟨[
  (["names.json"], .file (Json.list Json.text FeatureName.names.reverse).compact.toUTF8),
  (["twice.json"], .file (FeatureManifest.ofNames ["capacity", "weight", "capacity"]).text.toUTF8)]⟩

/-- The first passes, the second does not, and there is no third. -/
theorem run?_verify_checkedFiles :
    (∃ t, run? [] ["verify", "--", "names.json"] checkedFiles = some t ∧ t.exitCode = 0) ∧
      (∃ t d, run? [] ["--format", "json", "verify", "--", "twice.json"] checkedFiles = some t ∧
        t.exitCode = 1 ∧ TellsNames ["capacity", "weight", "capacity"] d ∧
        Json.readStrict? t.output = some (Screen.answer ⟨"twice.json"⟩ false d)) ∧
      ∃ t, run? [] ["verify", "absent.json"] checkedFiles = some t ∧ t.exitCode = 1 ∧
        t.shown = [] ∧
        FeatureManifest.load checkedFiles ⟨"absent.json"⟩ =
          .error (.manifestMissing ⟨"absent.json"⟩) := by
  have hnames : FeatureManifest.HoldsManifest checkedFiles ⟨"names.json"⟩
      (.ofNames FeatureName.names.reverse) :=
    ⟨_, _, _, rfl, Exporter.fromUTF8?_toUTF8 _, (Json.readStrict?_written
      (Json.isWritable_texts _) (Json.isStrict_texts _ _)).1, .names _⟩
  have htwice : FeatureManifest.HoldsManifest checkedFiles ⟨"twice.json"⟩
      (.ofNames ["capacity", "weight", "capacity"]) :=
    ⟨_, _, _, rfl, Exporter.fromUTF8?_toUTF8 _, (Json.readStrict?_written
      (FeatureManifest.isWritable_toJson _) (FeatureManifest.isStrict_toJson _)).2,
      .record (FeatureManifest.ofRecord?_toJson _)⟩
  have habsent : checkedFiles.IsAbsent ⟨"absent.json"⟩ :=
    .inr ⟨by decide, by decide, .here [] (by decide) rfl⟩
  refine ⟨?_, ?_, ?_⟩
  · obtain ⟨hparse, hshown, -⟩ := run?_verify ⟨"names.json"⟩ checkedFiles
    obtain ⟨t, hrun, hshows⟩ := @hshown [] _ _ (hparse (by decide)).1
    exact ⟨t, hrun, hshows.exitCode_eq_zero_iff.mpr ⟨_, hnames, List.reverse_perm _⟩⟩
  · obtain ⟨hparse, hshown, -⟩ := run?_verify ⟨"twice.json"⟩ checkedFiles
    obtain ⟨t, hrun, hshows⟩ := @hshown [] _ _ (hparse (by decide)).2.1
    obtain ⟨ok, d, htells, hok, hexit, hanswer⟩ := hshows.answers _ htwice
    have hdiffers : ok = false := by
      by_contra hne
      have hperm := htells.eq_nil_iff.mp (hok.mp (Bool.eq_true_of_not_eq_false hne))
      exact absurd hperm.length_eq (by decide)
    subst hdiffers
    exact ⟨t, d, hrun, hexit, htells, (hanswer rfl).1⟩
  · obtain ⟨hparse, hshown, hmissing⟩ := run?_verify ⟨"absent.json"⟩ checkedFiles
    obtain ⟨t, hrun, hshows⟩ := @hshown [] _ _ ((hparse (by decide)).2.2 (by decide))
    have hload := hmissing.mpr habsent
    obtain ⟨failure, -, rfl⟩ := hshows.complains (by
      rintro ⟨m, hm⟩
      rw [FeatureManifest.load_eq_ok_iff.mpr hm] at hload
      cases hload)
    exact ⟨_, hrun, rfl, rfl, hload⟩

end Console
end FleetScore
