import FleetScore.Artifact.Export
import FleetScore.Proofs.Manifest.ManifestText
import FleetScore.Proofs.Storage.Interruption

/-!
# An export as a plan of three replacements

An export makes its directory and then replaces three files, one after the other
(`plan_eq`).  So what an export may leave behind, whether it ran to its end or not, follows from
what the two kinds of plans leave behind, and `Progress` says it once: some first files are
complete, the others are kept, and nothing else has changed.

## The directory may lead through its own files

A directory is made with all that is missing above it, and its path may name a place that is also
one of the files, as `x/model.json/..` does.  Where nothing stands at such a place, the export puts
a directory there, and that is the only way in which a file that is not replaced can be disturbed.
`Keeps` says so for one place: what stood there still does, or nothing stood there and the
directory that was made on the way does.  Bytes never change in this way (`bytesAt?_of_keeps`).
-/

namespace FleetScore

/-- The bytes of the file at a place, if a file stands there. -/
def FileTree.bytesAt? (t : FileTree) (place : Place) : Option ByteArray :=
  match t.find? place with
  | some (.file bytes) => some bytes
  | _ => none

theorem FileTree.bytesAt?_of_find? {t : FileTree} {place : Place} {bytes : ByteArray}
    (h : t.find? place = some (.file bytes)) : t.bytesAt? place = some bytes := by
  rw [bytesAt?, h]

namespace Exporter

open FileTree Plan

/-! ## 1.  The three files -/

/-- The replacement of one file of an export. -/
def replacement (e : Exporter) (name temporary : String) (bytes : ByteArray) : Replacement :=
  ⟨e.dir.child name, e.dir.child temporary, bytes⟩

/-- The replacement of the model file. -/
def modelReplacement (e : Exporter) (c : Contents) : Replacement :=
  e.replacement modelFile modelTemporary c.model

/-- The replacement of the scaler file. -/
def scalerReplacement (e : Exporter) (c : Contents) : Replacement :=
  e.replacement scalerFile scalerTemporary c.scaler

/-- The replacement of the manifest file. -/
def manifestReplacement (e : Exporter) (c : Contents) : Replacement :=
  e.replacement manifestFile manifestTemporary c.manifest

/-- The replacements of an export, in order. -/
def replacements (e : Exporter) (c : Contents) : List Replacement :=
  [e.modelReplacement c, e.scalerReplacement c, e.manifestReplacement c]

theorem target_manifestReplacement (e : Exporter) (c : Contents) :
    (e.manifestReplacement c).target = e.dir.child manifestFile := rfl

theorem getLast?_replacements (e : Exporter) (c : Contents) :
    (e.replacements c).getLast? = some (e.manifestReplacement c) := rfl

/-- **An export makes its directory and replaces three files.** -/
theorem plan_eq (e : Exporter) (c : Contents) (files : FileTree) :
    e.plan c files = makeDirectories files e.dir ++ replaceAll (e.replacements c) := by
  simp [plan, replaceAll, replacements, modelReplacement, scalerReplacement, manifestReplacement,
    replacement, Replacement.steps]

/-- The names of the files of an export and of their temporary siblings. -/
def fileNames : List String := [
  modelFile, modelTemporary, scalerFile, scalerTemporary, manifestFile, manifestTemporary]

theorem isFileName_of_mem {name : String} (h : name ∈ fileNames) : Path.IsFileName name := by
  have hall : ∀ name ∈ fileNames, name ≠ "" ∧ '/' ∉ name.toList ∧ '\x00' ∉ name.toList ∧
      Place.isName name = true ∧ name.utf8ByteSize ≤ nameLimit := by decide
  obtain ⟨hne, hseparator, hzero, hname, hshort⟩ := hall name h
  exact ⟨hne, hseparator, hzero, hname, hshort⟩

theorem place_child_of_mem (dir : Path) {name : String} (h : name ∈ fileNames) :
    (dir.child name).place = dir.place ++ [name] :=
  Path.place_child (isFileName_of_mem h) dir

theorem places_replacements (e : Exporter) (c : Contents) :
    (e.replacements c).flatMap Replacement.places =
      fileNames.map fun name => e.dir.place ++ [name] := by
  have hplace : ∀ name ∈ fileNames, (e.dir.child name).place = e.dir.place ++ [name] :=
    fun name h => place_child_of_mem e.dir h
  simp only [fileNames, List.forall_mem_cons] at hplace
  obtain ⟨h₁, h₂, h₃, h₄, h₅, h₆, -⟩ := hplace
  simp [replacements, modelReplacement, scalerReplacement, manifestReplacement, replacement,
    Replacement.places, fileNames, h₁, h₂, h₃, h₄, h₅, h₆]

theorem nodup_places (e : Exporter) (c : Contents) :
    ((e.replacements c).flatMap Replacement.places).Nodup := by
  rw [places_replacements]
  have hnames : fileNames.Nodup := by decide
  refine hnames.map fun a b hab => ?_
  simpa using hab

/-! ## 2.  The progress of an export -/

/-- Whether one tree holds at a place what another held there; where that was nothing, the
directory that was made on the way to the export's own may stand there instead. -/
def Keeps (e : Exporter) (before after : FileTree) (place : Place) : Prop :=
  after.find? place = before.find? place ∨
    place ∈ e.dir.way ∧ before.find? place = none ∧ after.find? place = some .directory

theorem bytesAt?_of_keeps {e : Exporter} {before after : FileTree} {place : Place}
    (h : e.Keeps before after place) : after.bytesAt? place = before.bytesAt? place := by
  rcases h with hsame | ⟨-, hnone, hmade⟩
  · rw [bytesAt?, bytesAt?, hsame]
  · rw [bytesAt?, bytesAt?, hnone, hmade]

/-- What an export has done and left: the first files are complete, the others are kept, and
nothing but the files and their temporary siblings has changed.  What is to be done next is
about the directory, or about the first of the files that are not complete. -/
structure Progress (e : Exporter) (c : Contents) (done pending : List Replacement) (rest : Plan)
    (before after : FileTree) : Prop where
  split : e.replacements c = done ++ pending
  complete : ∀ r ∈ done, r.IsDone after
  kept : ∀ r ∈ pending, e.Keeps before after r.target.place
  confined : ∀ q, q ∉ (e.replacements c).flatMap Replacement.places → e.Keeps before after q
  finished : rest = [] → pending = []
  blamed : ∀ p ∈ rest.head?,
    p.blamed = e.dir ∧ done = [] ∨ ∃ r ∈ pending.head?, r.Blames p.blamed

/-- **Whenever an export is cut short, it has made some progress.** -/
theorem exists_progress {e : Exporter} {c : Contents} {files before after : FileTree} {rest : Plan}
    (h : Interrupted (e.plan c files) rest before after) :
    ∃ done pending, e.Progress c done pending rest before after := by
  rw [plan_eq] at h
  rcases interrupted_append h with ⟨p, more, rfl, hdirs⟩ | ⟨middle, hdirs, hfiles⟩
  · -- The directory is being made, and no file has been touched.
    have hmakes := onlyMakes_makeDirectories hdirs
    refine ⟨[], e.replacements c, rfl, by simp, fun r _ => hmakes _, fun q _ => hmakes q,
      by simp, ?_⟩
    intro q hq
    obtain rfl : p = q := by simpa using hq
    exact .inl ⟨blamed_of_mem_makeDirectories (hdirs.subset List.mem_cons_self), rfl⟩
  · -- The directory is there, and the files are being replaced.
    have hmakes := onlyMakes_makeDirectories hdirs
    obtain ⟨done, pending, hhalfway⟩ := interrupted_replaceAll (e.nodup_places c) hfiles
    have hkeeps : ∀ q, after.find? q = middle.find? q → e.Keeps before after q := by
      intro q hq
      rw [Keeps, hq]
      exact hmakes q
    exact ⟨done, pending, hhalfway.split, hhalfway.complete,
      fun r hr => hkeeps _ (hhalfway.untouched r hr), fun q hq => hkeeps q (hhalfway.confined q hq),
      hhalfway.finished, fun p hp => .inr (hhalfway.blamed p hp)⟩

/-! ## 3.  The contents belong together -/

theorem fromUTF8?_toUTF8 (s : String) : String.fromUTF8? s.toUTF8 = some s :=
  dif_pos s.isValidUTF8

/-- Whether the bytes of a manifest file are a manifest that carries a digest. -/
def CarriesDigest (manifest : ByteArray) (digest : String) : Prop :=
  ∃ text m, String.fromUTF8? manifest = some text ∧ FeatureManifest.ofText text = .ok m ∧
    m.modelSha256 = some digest

theorem carriesDigest_text (m : FeatureManifest) (digest : String) :
    CarriesDigest ({ m with modelSha256 := some digest } : FeatureManifest).text.toUTF8 digest :=
  ⟨_, _, fromUTF8?_toUTF8 _, FeatureManifest.ofText_text _, rfl⟩

theorem contents_manifest (t : Training.Trained Float) (now : Instant) :
    (contents t now).manifest = ({ manifest now with
      modelSha256 := some (Sha256.checksum (contents t now).model) }
        : FeatureManifest).text.toUTF8 := by
  simp only [contents]

/-- **The manifest of an export carries the digest of its model file.** -/
theorem carriesDigest_contents (t : Training.Trained Float) (now : Instant) :
    CarriesDigest (contents t now).manifest (Sha256.checksum (contents t now).model) := by
  rw [contents_manifest]
  exact carriesDigest_text (manifest now) _

end Exporter
end FleetScore
