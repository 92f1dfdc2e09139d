import FleetScore.Artifact.Export
import FleetScore.Manifest.Verification
import FleetScore.Proofs.Feature.ParityContract

/-!
# All checks of parity are one

Names of features are checked in three places, and each takes the names that it expects from
somewhere else.  A manifest file is held against the list of the canonical names.  An export is held
against the names that the record of a vector really carries.  And a vector that is put together by
name compares two sets, with a rule of its own and without asking for repeated names, because values
under names have none.

The three agree, in what they let pass and in every name of the difference when they do not
(`verify_agrees`).  The record of a vector carries the canonical names in another order
(`emittedNames_perm`), and order does not matter; and two sets differ by what each of them lacks
(`Parity.difference_of_nodup`).

An export writes the canonical names into its own manifest, so its own manifest always passes, and
it is the serving manifest alone that can block it.  Where nothing does, it carries out its plan as
far as the files let it (`run_cases`).
-/

namespace FleetScore

open Parity

/-! ## 1.  The names that are expected -/

/-- **The record of a vector carries the canonical names.** -/
theorem FeatureVector.emittedNames_perm : FeatureVector.emittedNames.Perm FeatureName.names := by
  have hnames : FeatureVector.emittedNames = ["active_conns", "capacity", "cpu_usage", "error_rate",
      "memory_usage", "response_p95"] := by rfl
  rw [hnames]
  decide

/-- So it does not matter which of the two a list is held against. -/
theorem FeatureVector.verify_emittedNames (features : List String) :
    Parity.verify emittedNames features = Parity.verify FeatureName.names features :=
  verify_perm emittedNames_perm (.refl _)

theorem FeatureName.inParity_names_iff {features : List String} :
    InParity FeatureName.names features ↔ features.Perm FeatureName.names :=
  inParity_iff_perm FeatureName.names_nodup

/-! ## 2.  Values under names -/

namespace FeatureVector

/-- **A vector is put together by name exactly if the names are in parity**, and is otherwise
refused with the same difference. -/
theorem map_ofNamed? (serverId : Int64) {values : List (String × Float)} {keys : List String}
    (hkeys : keys.Nodup) (hmem : ∀ n, n ∈ keys ↔ n ∈ values.map Prod.fst) :
    (ofNamed? serverId values).map (fun _ => ()) = Parity.verify FeatureName.names keys := by
  have hexpected : ∀ n, n ∈ ascending FeatureName.names ↔ n ∈ FeatureName.names := by
    intro n
    exact mem_ascending
  have hgiven : ∀ n, n ∈ ascending (values.map Prod.fst) ↔ n ∈ keys := by
    intro n
    rw [mem_ascending, hmem]
  have hdifference : (⟨lacking (ascending FeatureName.names) (ascending (values.map Prod.fst)),
      lacking (ascending (values.map Prod.fst)) (ascending FeatureName.names)⟩ : NameDifference) =
        difference FeatureName.names keys := by
    rw [difference_of_nodup FeatureName.names_nodup hkeys, lacking_congr hexpected hgiven,
      lacking_congr hgiven hexpected]
  rw [ofNamed?, Parity.verify, hdifference]
  split <;> rfl

end FeatureVector

/-! ## 3.  Manifests -/

theorem FeatureManifest.verify_eq_error_iff {m : FeatureManifest} {d : NameDifference} :
    m.verify = .error (.featureSetMismatch d) ↔
      Parity.verify FeatureName.names m.features = .error d := by
  rw [verify]
  cases Parity.verify FeatureName.names m.features <;> simp [Except.mapError]

theorem FeatureManifest.verify_error {m : FeatureManifest} {failure : Failure}
    (h : m.verify = .error failure) : ∃ difference, failure = .featureSetMismatch difference := by
  rw [verify] at h
  cases hnames : Parity.verify FeatureName.names m.features with
  | error difference =>
    rw [hnames] at h
    exact ⟨difference, (Except.error.inj h).symm⟩
  | ok _ =>
    rw [hnames] at h
    cases h

/-- **A manifest passes exactly if its names are a rearrangement of the canonical ones.** -/
theorem FeatureManifest.verify_eq_ok_iff {m : FeatureManifest} :
    m.verify = .ok () ↔ m.features.Perm FeatureName.names := by
  rw [verify, ← FeatureName.inParity_names_iff, ← Parity.verify_eq_ok_iff]
  cases Parity.verify FeatureName.names m.features <;> simp [Except.mapError]

/-- **A manifest file is accepted if it is loaded and its manifest passes.** -/
theorem FeatureManifest.verifyFile_eq (files : FileTree) (path : Path) :
    (verifyFile files path).1 = (load files path).bind fun m => m.verify.map fun _ => m := by
  rw [verifyFile]
  cases load files path with
  | error failure => rfl
  | ok m =>
    dsimp only [Except.bind]
    cases m.verify <;> rfl

namespace Exporter

/-- **An exporter checks a manifest as a manifest file is checked.** -/
theorem verify_of_serving_none {e : Exporter} (h : e.serving = none) (m : FeatureManifest) :
    e.verify m = m.verify := by
  rw [verify, h, FeatureManifest.verify]
  dsimp only
  rw [FeatureVector.verify_emittedNames]
  cases Parity.verify FeatureName.names m.features <;> rfl

/-- **With a serving manifest it checks both**, the manifest first. -/
theorem verify_of_serving_some {e : Exporter} {serving : FeatureManifest}
    (h : e.serving = some serving) (m : FeatureManifest) :
    e.verify m = m.verify >>= fun _ => serving.verify := by
  rw [verify, h, FeatureManifest.verify, FeatureManifest.verify]
  dsimp only
  rw [FeatureVector.verify_emittedNames, FeatureVector.verify_emittedNames]

theorem verify_error {e : Exporter} {m : FeatureManifest} {failure : Failure}
    (h : e.verify m = .error failure) :
    ∃ difference, failure = .featureSetMismatch difference := by
  cases hserving : e.serving with
  | none =>
    rw [verify_of_serving_none hserving] at h
    exact FeatureManifest.verify_error h
  | some serving =>
    rw [verify_of_serving_some hserving] at h
    cases hm : m.verify with
    | error failure' =>
      rw [hm] at h
      obtain rfl : failure' = failure := Except.error.inj h
      exact FeatureManifest.verify_error hm
    | ok _ =>
      rw [hm] at h
      exact FeatureManifest.verify_error h

/-! ## 4.  Exports -/

theorem verify_manifest (now : Instant) : (manifest now).verify = .ok () :=
  FeatureManifest.verify_eq_ok_iff.mpr (.refl _)

/-- **How an export ends.**  The check of its manifest blocks it and it does nothing, or a step of
its plan fails, or it carries out all of them. -/
theorem run_cases (e : Exporter) (t : Training.Trained Float) (now : Instant) (files : FileTree) :
    (∃ d, e.verify (manifest now) = .error (.featureSetMismatch d) ∧
        e.run t now files = ⟨files, .error (.featureSetMismatch d),
          [blockedEvent (.featureSetMismatch d)]⟩) ∨
      e.verify (manifest now) = .ok () ∧
        ((∃ path fault,
            ((e.plan (contents t now) files).run files).fault = some (path, fault) ∧
              e.run t now files = ⟨((e.plan (contents t now) files).run files).tree,
                .error (.artifact path fault), []⟩) ∨
          ((e.plan (contents t now) files).run files).fault = none ∧
            e.run t now files = ⟨((e.plan (contents t now) files).run files).tree,
              .ok (e.summary (contents t now)),
              [e.exportedEvent (e.summary (contents t now))]⟩) := by
  rw [run]
  cases hverify : e.verify (manifest now) with
  | error failure =>
    obtain ⟨d, rfl⟩ := verify_error hverify
    exact .inl ⟨d, rfl, rfl⟩
  | ok u =>
    refine .inr ⟨rfl, ?_⟩
    cases hfault : ((e.plan (contents t now) files).run files).fault with
    | some blame =>
      simp only [hfault]
      exact .inl ⟨blame.1, blame.2, rfl, rfl⟩
    | none =>
      simp only [hfault]
      exact .inr ⟨trivial, trivial⟩

/-- **A difference of names is what the check of the manifest answers**, and no later step. -/
theorem result_eq_featureSetMismatch_iff {e : Exporter} {t : Training.Trained Float}
    {now : Instant} {files : FileTree} {d : NameDifference} :
    (e.run t now files).result = .error (.featureSetMismatch d) ↔
      e.verify (manifest now) = .error (.featureSetMismatch d) := by
  obtain ⟨d', hverify, hrun⟩ | ⟨hverify, ⟨path, fault, -, hrun⟩ | ⟨-, hrun⟩⟩ :=
    e.run_cases t now files
  · rw [hverify, hrun]
    simp
  · rw [hverify, hrun]
    simp
  · rw [hverify, hrun]
    simp

/-- **An export is blocked by a serving manifest only**, and with its difference. -/
theorem verify_manifest_eq_error_iff {e : Exporter} {now : Instant} {d : NameDifference} :
    e.verify (manifest now) = .error (.featureSetMismatch d) ↔
      ∃ serving, e.serving = some serving ∧
        Parity.verify FeatureName.names serving.features = .error d := by
  cases hserving : e.serving with
  | none =>
    rw [verify_of_serving_none hserving, verify_manifest]
    simp
  | some serving =>
    have hverify : e.verify (manifest now) = serving.verify := by
      rw [verify_of_serving_some hserving, verify_manifest]
      rfl
    rw [hverify, FeatureManifest.verify_eq_error_iff]
    simp

/-- **The checks of parity agree.**  An exporter answers what the check of a manifest file answers,
for its manifest and then for the serving manifest if there is one; a vector is put together by name
exactly if the names are in parity, and is refused with the same difference otherwise; and an export
is blocked exactly by a serving manifest that is not a rearrangement of the canonical names. -/
theorem verify_agrees :
    (∀ (e : Exporter) (m : FeatureManifest), e.serving = none →
      e.verify m =
        (Parity.verify FeatureName.names m.features).mapError Failure.featureSetMismatch) ∧
    (∀ (e : Exporter) (m serving : FeatureManifest), e.serving = some serving →
      e.verify m = m.verify >>= fun _ => serving.verify) ∧
    (∀ (files : FileTree) (path : Path), (FeatureManifest.verifyFile files path).1 =
      (FeatureManifest.load files path).bind fun m =>
        ((Parity.verify FeatureName.names m.features).mapError Failure.featureSetMismatch).map
          fun _ => m) ∧
    (∀ (serverId : Int64) (values : List (String × Float)) (keys : List String), keys.Nodup →
      (∀ n, n ∈ keys ↔ n ∈ values.map Prod.fst) →
        (FeatureVector.ofNamed? serverId values).map (fun _ => ()) =
          Parity.verify FeatureName.names keys) ∧
    ∀ (e : Exporter) (t : Training.Trained Float) (now : Instant) (files : FileTree),
      (∃ d, (e.run t now files).result = .error (.featureSetMismatch d)) ↔
        ∃ serving, e.serving = some serving ∧ ¬ serving.features.Perm FeatureName.names := by
  refine ⟨?_, ?_, ?_, ?_, ?_⟩
  · intro e m hserving
    exact verify_of_serving_none hserving m
  · intro e m serving hserving
    exact verify_of_serving_some hserving m
  · exact FeatureManifest.verifyFile_eq
  · intro serverId values keys hkeys hmem
    exact FeatureVector.map_ofNamed? serverId hkeys hmem
  · intro e t now files
    simp only [result_eq_featureSetMismatch_iff, verify_manifest_eq_error_iff]
    constructor
    · rintro ⟨d, serving, hserving, hd⟩
      refine ⟨serving, hserving, ?_⟩
      intro hperm
      rw [verify_eq_ok_iff.mpr (FeatureName.inParity_names_iff.mpr hperm)] at hd
      cases hd
    · rintro ⟨serving, hserving, hperm⟩
      have hparity := fun h => hperm (FeatureName.inParity_names_iff.mp h)
      exact ⟨_, serving, hserving, verify_eq_error hparity⟩

/-! ## 5.  A serving manifest that repeats a name -/

/-- A manifest of the canonical names, one of them twice. -/
def repeatedManifest : FeatureManifest := .ofNames ("capacity" :: FeatureName.names)

/-- An exporter for a deployment that runs with it. -/
def repeatedExporter : Exporter := ⟨⟨"out"⟩, some repeatedManifest⟩

/-- It blocks the export.  Two values under names, one of which is canonical, are refused as the
two names are. -/
theorem verify_agrees_repeatedManifest :
    (⟨⟨"out"⟩, none⟩ : Exporter).verify repeatedManifest =
        (Parity.verify FeatureName.names repeatedManifest.features).mapError
          Failure.featureSetMismatch ∧
      repeatedExporter.verify .canonical =
        FeatureManifest.canonical.verify >>= (fun _ => repeatedManifest.verify) ∧
      ["weight", "capacity"].Nodup ∧
      (FeatureVector.ofNamed? 7 [("capacity", 100), ("weight", 3)]).map (fun _ => ()) =
        Parity.verify FeatureName.names ["weight", "capacity"] ∧
      ∃ d, (repeatedExporter.run ⟨.zero, .fit [], .zero, 0.0, 1, 1⟩
        ⟨0, 0, by decide, by decide, by decide⟩ ⟨[]⟩).result = .error (.featureSetMismatch d) := by
  obtain ⟨hnone, hserving, -, hnamed, hblocked⟩ := verify_agrees
  refine ⟨hnone ⟨⟨"out"⟩, none⟩ _ rfl, hserving repeatedExporter _ _ rfl, by decide, ?_, ?_⟩
  · refine hnamed 7 [("capacity", 100), ("weight", 3)] ["weight", "capacity"] (by decide) ?_
    intro n
    simp [or_comm]
  · refine (hblocked repeatedExporter _ _ _).mpr ⟨repeatedManifest, rfl, ?_⟩
    intro hperm
    exact absurd hperm.length_eq (by decide)

end Exporter
end FleetScore
