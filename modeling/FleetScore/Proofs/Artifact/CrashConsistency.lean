import FleetScore.Proofs.Artifact.ExportPlan

/-!
# An export can be cut short at any point

`MayLeave` relates the files before an export to everything that may be found on them while it
goes on: the files between two of its steps, and those with a part of the bytes of a file that is
being written.  What an export leaves when it returns, with or without a failure, is among them
(`mayLeave_run`).

The main result, `crashConsistent`, says what all of these have in common.  Each of the three files
holds what it held before or its complete new content; a manifest that is not the one from before
stands beside the new model and the new scaler and carries the digest of that model; and every
place that has changed is a temporary sibling, a file that holds its new content, or a directory
that was missing on the way.
-/

namespace FleetScore
namespace Exporter

open FileTree Plan

/-- Whether some files may be found while a trained model is exported, or after the export was cut
short.  A blocked export does nothing. -/
def MayLeave (e : Exporter) (t : Training.Trained Float) (now : Instant)
    (before after : FileTree) : Prop :=
  match e.verify (manifest now) with
  | .error _ => after = before
  | .ok () => ∃ rest, Interrupted (e.plan (contents t now) before) rest before after

/-- What an export leaves when it returns is among what may be found. -/
theorem mayLeave_run (e : Exporter) (t : Training.Trained Float) (now : Instant)
    (before : FileTree) : e.MayLeave t now before (e.run t now before).files := by
  rw [MayLeave, run]
  cases e.verify (manifest now) with
  | error failure => rfl
  | ok u =>
    have hrun := interrupted_run (e.plan (contents t now) before) before
    cases hfault : ((e.plan (contents t now) before).run before).fault with
    | none =>
      simp only [hfault]
      rcases hrun with ⟨-, hdone⟩ | ⟨p, rest, fault, hsome, -⟩
      · exact ⟨[], hdone⟩
      · rw [hfault] at hsome
        cases hsome
    | some blame =>
      simp only [hfault]
      rcases hrun with ⟨hnone, -⟩ | ⟨p, rest, fault, -, hcut⟩
      · rw [hfault] at hnone
        cases hnone
      · exact ⟨p :: rest, hcut⟩

/-- Whether the manifest on the files carries the digest of the model beside it. -/
def IsMatched (e : Exporter) (files : FileTree) : Prop :=
  ∃ model manifest, files.bytesAt? (e.dir.child modelFile).place = some model ∧
    files.bytesAt? (e.dir.child manifestFile).place = some manifest ∧
    CarriesDigest manifest (Sha256.checksum model)

theorem isMatched_of_isDone {e : Exporter} {c : Contents} {files : FileTree}
    (hdigest : CarriesDigest c.manifest (Sha256.checksum c.model))
    (h : ∀ r ∈ e.replacements c, r.IsDone files) : e.IsMatched files := by
  have hmodel := h (e.modelReplacement c) (by simp [replacements])
  have hmanifest := h (e.manifestReplacement c) (by simp [replacements])
  exact ⟨c.model, c.manifest, bytesAt?_of_find? hmodel, bytesAt?_of_find? hmanifest, hdigest⟩

/-- What is kept and what is complete, once an export was let through. -/
theorem crashConsistent_of_progress {e : Exporter} {c : Contents} {done pending : List Replacement}
    {rest : Plan} {before after : FileTree} (h : e.Progress c done pending rest before after) :
    (∀ r ∈ e.replacements c, e.Keeps before after r.target.place ∨ r.IsDone after) ∧
      (e.Keeps before after (e.manifestReplacement c).target.place ∨
        ∀ r ∈ e.replacements c, r.IsDone after) := by
  constructor
  · intro r hr
    rw [h.split] at hr
    rcases List.mem_append.mp hr with hdone | hpending
    · exact .inr (h.complete r hdone)
    · exact .inl (h.kept r hpending)
  · rcases List.eq_nil_or_concat pending with hnil | ⟨init, last, hlast⟩
    · refine .inr fun r hr => h.complete r ?_
      rwa [h.split, hnil, List.append_nil] at hr
    · -- The manifest is the last file, so it is pending if any file is.
      have hmanifest : last = e.manifestReplacement c := by
        have hgetLast := e.getLast?_replacements c
        rw [h.split, hlast, List.concat_eq_append, ← List.append_assoc,
          List.getLast?_concat] at hgetLast
        exact Option.some.inj hgetLast
      refine .inl (hmanifest ▸ h.kept last ?_)
      rw [hlast]
      simp

/-- Whatever has changed is a temporary sibling, a complete file, or a directory on the way. -/
theorem confined_of_progress {e : Exporter} {c : Contents} {done pending : List Replacement}
    {rest : Plan} {before after : FileTree} (h : e.Progress c done pending rest before after)
    {q : Place} (hq : after.find? q ≠ before.find? q) :
    (∃ r ∈ e.replacements c, q = r.temporary.place ∨ q = r.target.place ∧ r.IsDone after) ∨
      q ∈ e.dir.way ∧ before.find? q = none ∧ after.find? q = some .directory := by
  have hkeeps : e.Keeps before after q →
      q ∈ e.dir.way ∧ before.find? q = none ∧ after.find? q = some .directory := by
    rintro (hsame | hmade)
    · exact absurd hsame hq
    · exact hmade
  by_cases hplaces : q ∈ (e.replacements c).flatMap Replacement.places
  · obtain ⟨r, hr, hplace⟩ := List.mem_flatMap.mp hplaces
    have hplace : q = r.target.place ∨ q = r.temporary.place := by
      simpa [Replacement.places] using hplace
    rcases hplace with rfl | rfl
    · rcases (crashConsistent_of_progress h).1 r hr with hkept | hdone
      · exact .inr (hkeeps hkept)
      · exact .inl ⟨r, hr, .inr ⟨rfl, hdone⟩⟩
    · exact .inl ⟨r, hr, .inl rfl⟩
  · exact .inr (hkeeps (h.confined q hplaces))

/-- **An export is crash-consistent and confined to its own paths.**  What it leaves when it
returns is one of the things that may be found, and whatever may be found, each file holds what it
held before or its complete new content; a manifest that is not the one from before stands beside
the new model and the new scaler and carries the digest of the model on the files; and only
temporary siblings, complete files and missing directories on the way to the directory have
changed. -/
theorem crashConsistent (e : Exporter) (t : Training.Trained Float) (now : Instant)
    (before : FileTree) :
    e.MayLeave t now before (e.run t now before).files ∧
      ∀ after, e.MayLeave t now before after →
        (∀ r ∈ e.replacements (contents t now),
          after.bytesAt? r.target.place = before.bytesAt? r.target.place ∨
            after.bytesAt? r.target.place = some r.bytes) ∧
        (after.bytesAt? (e.dir.child manifestFile).place ≠
            before.bytesAt? (e.dir.child manifestFile).place →
          (∀ r ∈ e.replacements (contents t now),
            after.bytesAt? r.target.place = some r.bytes) ∧ e.IsMatched after) ∧
        ∀ q, after.find? q ≠ before.find? q →
          (∃ r ∈ e.replacements (contents t now),
            q = r.temporary.place ∨
              q = r.target.place ∧ after.find? q = some (.file r.bytes)) ∨
          q ∈ e.dir.way ∧ before.find? q = none ∧ after.find? q = some .directory := by
  refine ⟨e.mayLeave_run t now before, fun after h => ?_⟩
  rw [MayLeave] at h
  split at h
  · -- The export was blocked.
    subst h
    exact ⟨fun r _ => .inl rfl, fun hne => absurd rfl hne, fun q hq => absurd rfl hq⟩
  · obtain ⟨rest, hcut⟩ := h
    obtain ⟨done, pending, hprogress⟩ := exists_progress hcut
    obtain ⟨hfiles, hmanifest⟩ := crashConsistent_of_progress hprogress
    refine ⟨fun r hr => ?_, fun hne => ?_, fun q hq => ?_⟩
    · rcases hfiles r hr with hkept | hdone
      · exact .inl (bytesAt?_of_keeps hkept)
      · exact .inr (bytesAt?_of_find? hdone)
    · rcases hmanifest with hkept | hdone
      · exact absurd (bytesAt?_of_keeps hkept) hne
      · exact ⟨fun r hr => bytesAt?_of_find? (hdone r hr), isMatched_of_isDone (carriesDigest_contents t now) hdone⟩
    · rcases confined_of_progress hprogress hq with ⟨r, hr, htemporary | ⟨rfl, hdone⟩⟩ | hmade
      · exact .inl ⟨r, hr, .inl htemporary⟩
      · exact .inl ⟨r, hr, .inr ⟨rfl, hdone⟩⟩
      · exact .inr hmade

/-! ## A scaler that is half written -/

/-- An exporter of the sample. -/
def sampleExporter : Exporter := ⟨⟨"out"⟩, none⟩

/-- The trained model of the sample. -/
def sampleTrained : Training.Trained Float := ⟨.zero, .fit [], .zero, 0.0, 2, 2⟩

/-- When the sample was exported. -/
def sampleInstant : Instant := ⟨1704067200, 0, by decide, by decide, Instant.earliest.nano_lt⟩

/-- An old model file, and a temporary sibling that an export before left behind. -/
def sampleFiles : FileTree := ⟨[
  (["out"], .directory), (["out", "model.json"], .file ByteArray.empty),
  (["out", "scaler.tmp"], .file ByteArray.empty)]⟩

/-- The files of the sample when the model is new and seven bytes of the scaler are written. -/
def sampleCut (c : Contents) : FileTree :=
  let created := sampleFiles.put ["out", "model.tmp"] (.file ByteArray.empty)
  let written := created.put ["out", "model.tmp"] (.file (ByteArray.empty ++ c.model))
  let renamed := (written.remove ["out", "model.tmp"]).put ["out", "model.json"]
    (.file (ByteArray.empty ++ c.model))
  let recreated := renamed.put ["out", "scaler.tmp"] (.file ByteArray.empty)
  recreated.put ["out", "scaler.tmp"] (.file (ByteArray.empty ++ c.scaler.extract 0 7))

/-- The half written scaler may be found: there the model file is the new one, and no file holds
anything but what it held or its complete new content. -/
theorem crashConsistent_sampleCut :
    sampleExporter.MayLeave sampleTrained sampleInstant sampleFiles
        (sampleCut (contents sampleTrained sampleInstant)) ∧
      (∀ r ∈ sampleExporter.replacements (contents sampleTrained sampleInstant),
        (sampleCut (contents sampleTrained sampleInstant)).bytesAt? r.target.place =
            sampleFiles.bytesAt? r.target.place ∨
          (sampleCut (contents sampleTrained sampleInstant)).bytesAt? r.target.place =
            some r.bytes) ∧
      (sampleCut (contents sampleTrained sampleInstant)).bytesAt? ["out", "model.json"] =
        some (contents sampleTrained sampleInstant).model := by
  have hcut : ∀ c : Contents, ∃ rest,
      Interrupted (sampleExporter.plan c sampleFiles) rest sampleFiles (sampleCut c) :=
    fun c => ⟨_, .onward rfl (.onward rfl (.onward rfl (.onward rfl (.onward rfl
      (.onward rfl (.partly 7 rfl))))))⟩
  have hleave : sampleExporter.MayLeave sampleTrained sampleInstant sampleFiles
      (sampleCut (contents sampleTrained sampleInstant)) := hcut _
  have hmodel : ∀ c : Contents, (sampleCut c).bytesAt? ["out", "model.json"] =
      some (ByteArray.empty ++ c.model) := fun _ => rfl
  have hfiles := ((crashConsistent sampleExporter sampleTrained sampleInstant sampleFiles).2 _
    hleave).1
  refine ⟨hleave, hfiles, ?_⟩
  rw [hmodel, ByteArray.empty_append]

end Exporter
end FleetScore
