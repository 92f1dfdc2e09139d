import FleetScore.Proofs.Artifact.CrashConsistency
import FleetScore.Proofs.Pipeline.Correspondence
import FleetScore.Proofs.Storage.Retrieval

/-!
# What an export that fails leaves behind

Three files are replaced one after the other, and nothing is taken back.  So an export that fails
at one of them leaves those before it new and the others as they were, the manifest always among
these (`exists_failed`): the report of such a run says that no artifacts were written, and still
the model on the files may be another than the one that the manifest tells of
(`failed_sampleObstructed`).

Of the faults that a file tree has, few can come that late.  Once the model file is replaced, its
directory can be written into, and what may still be in the way is a directory at a later file, or
that the path to the manifest is too long, which is the longest of the three.  Where neither is so, a
failed export leaves all three files as they were (`failed_keeps`).  This rests on what a file tree
does not have: a disk that is full or a permission that is missing could stop an export at any file.
What `exists_failed` says does not rest on it.
-/

namespace FleetScore

namespace Exporter

open FileTree Plan

/-! ## 1.  Where an export fails -/

section

variable {e : Exporter} {t : Training.Trained Float} {now : Instant} {before : FileTree}
  {path : Path} {fault : FileFault}

theorem fault_of_result (h : (e.run t now before).result = .error (.artifact path fault)) :
    ((e.plan (contents t now) before).run before).fault = some (path, fault) ∧
      (e.run t now before).files = ((e.plan (contents t now) before).run before).tree := by
  obtain ⟨d, -, hrun⟩ | ⟨-, ⟨path', fault', hfault, hrun⟩ | ⟨-, hrun⟩⟩ := e.run_cases t now before
  · rw [hrun] at h
    cases h
  · rw [hrun] at h ⊢
    dsimp only at h ⊢
    cases h
    exact ⟨hfault, rfl⟩
  · rw [hrun] at h
    cases h

/-- **An export that fails at a file has replaced the files before it**, and kept that file and
those after it.  One that fails at its directory has replaced none. -/
theorem exists_failed (h : (e.run t now before).result = .error (.artifact path fault)) :
    ∃ done r pending, e.replacements (contents t now) = done ++ r :: pending ∧
      (path = e.dir ∧ done = [] ∨ r.Blames path) ∧
      (∀ d ∈ done, d.IsDone (e.run t now before).files) ∧
      ∀ k ∈ r :: pending, e.Keeps before (e.run t now before).files k.target.place := by
  obtain ⟨hfault, hfiles⟩ := fault_of_result h
  rw [hfiles]
  rcases interrupted_run (e.plan (contents t now) before) before with
    ⟨hnone, -⟩ | ⟨p, rest, fault', hsome, hcut⟩
  · rw [hnone] at hfault
    cases hfault
  · rw [hsome] at hfault
    cases hfault
    obtain ⟨done, pending, hprogress⟩ := exists_progress hcut
    rcases hprogress.blamed p rfl with ⟨hdir, rfl⟩ | ⟨r, hr, hblames⟩
    · refine ⟨[], _, _, rfl, .inl ⟨hdir, rfl⟩, by simp, fun k hk => hprogress.kept k ?_⟩
      have hsplit : e.replacements (contents t now) = pending := hprogress.split
      rw [← hsplit]
      exact hk
    · obtain ⟨pending, rfl⟩ : ∃ pending', pending = r :: pending' := by
        cases pending with
        | nil => cases hr
        | cons r' pending =>
          obtain rfl : r' = r := by simpa using hr
          exact ⟨pending, rfl⟩
      exact ⟨done, r, pending, hprogress.split, .inr hblames, hprogress.complete, hprogress.kept⟩

/-! ## 2.  Nothing in the way -/

/-- Whether no directory stands in the way of a file of an export, and none is made there for the
way to the export's own. -/
structure IsClear (e : Exporter) (before : FileTree) (r : Replacement) : Prop where
  target : before.find? r.target.place ≠ some .directory
  temporary : before.find? r.temporary.place ≠ some .directory
  aside : ∀ q ∈ r.places, q ∉ e.dir.way

/-- The first part of an export: making the directory and replacing the model file. -/
def firstPart (e : Exporter) (c : Contents) (files : FileTree) : Plan :=
  makeDirectories files e.dir ++ (e.modelReplacement c).steps

/-- The second part: replacing the scaler and the manifest. -/
def secondPart (e : Exporter) (c : Contents) : List Replacement :=
  [e.scalerReplacement c, e.manifestReplacement c]

theorem plan_eq_parts (e : Exporter) (c : Contents) (files : FileTree) :
    e.plan c files = e.firstPart c files ++ replaceAll (e.secondPart c) := by
  rw [plan_eq, firstPart, List.append_assoc]
  rfl

/-- The places of the model file and its temporary sibling are not the same, and none of the other
places of the export is one of them. -/
theorem model_places (e : Exporter) (c : Contents) :
    (e.modelReplacement c).target.place ≠ (e.modelReplacement c).temporary.place ∧
      ((e.secondPart c).flatMap Replacement.places).Nodup ∧
      ∀ r ∈ e.secondPart c, ∀ q ∈ r.places, q ∉ (e.modelReplacement c).places := by
  have hnodup := e.nodup_places c
  rw [replacements, List.flatMap_cons] at hnodup
  obtain ⟨hpair, hrest, hdisjoint⟩ := List.nodup_append.mp hnodup
  refine ⟨by simpa [Replacement.places] using hpair, hrest, fun r hr q hq hmem => ?_⟩
  exact hdisjoint q hmem q (List.mem_flatMap.mpr ⟨r, hr, hq⟩) rfl

/-- An export that fails in its first part has replaced nothing. -/
theorem keeps_of_fault_firstPart {e : Exporter} {c : Contents} {before : FileTree}
    (h : ((e.firstPart c before).run before).fault ≠ none) :
    ∀ r ∈ e.replacements c,
      e.Keeps before ((e.firstPart c before).run before).tree r.target.place := by
  obtain ⟨hne, -, hothers⟩ := e.model_places c
  -- None of the three files is the temporary sibling of the model file.
  have hplace : ∀ r ∈ e.replacements c,
      r.target.place ∉ [(e.modelReplacement c).temporary.place] := by
    intro r hr hmem
    rcases List.mem_cons.mp hr with rfl | hr
    · exact hne (List.mem_singleton.mp hmem)
    · exact hothers r hr _ List.mem_cons_self
        (List.mem_cons_of_mem _ (List.mem_singleton.mp hmem ▸ List.mem_cons_self))
  rcases interrupted_run (e.firstPart c before) before with ⟨hnone, -⟩ | ⟨p, rest, fault, -, hcut⟩
  · exact absurd hnone h
  · intro r hr
    rcases interrupted_append hcut with ⟨q, more, -, hdirs⟩ | ⟨middle, hdirs, hmodel⟩
    · exact onlyMakes_makeDirectories hdirs _
    · rcases interrupted_replace hne hmodel with ⟨-, hagree⟩ | ⟨hnil, -⟩
      · rw [Keeps, hagree _ (hplace r hr)]
        exact onlyMakes_makeDirectories hdirs _
      · cases hnil

theorem utf8ByteSize_child_le (dir : Path) {name name' : String}
    (h : name'.utf8ByteSize ≤ name.utf8ByteSize) :
    (dir.child name').text.utf8ByteSize ≤ (dir.child name).text.utf8ByteSize := by
  unfold Path.child
  split <;> simp [String.utf8ByteSize_append] <;> omega

section

variable {e : Exporter} {c : Contents} {before : FileTree}
  (h : ((e.firstPart c before).run before).fault = none)

include h

/-- After the first part of an export, walks to all its files arrive, for the temporary sibling of
the model file was created in its directory. -/
theorem arrivesAt_after_firstPart (hlimit : (e.dir.child manifestFile).text.utf8ByteSize ≤ pathLimit)
    {name : String} (hname : name ∈ fileNames)
    (hshort : name.utf8ByteSize ≤ manifestFile.utf8ByteSize) :
    ((e.firstPart c before).run before).tree.ArrivesAt e.dir name := by
  have hmodel : modelTemporary ∈ fileNames := by decide
  have hstep : (⟨.create (e.dir.child modelTemporary), e.dir.child modelTemporary⟩ : PlannedStep) ∈
      e.firstPart c before := by
    refine List.mem_append_right _ ?_
    simp [modelReplacement, replacement, Replacement.steps, replace]
  obtain ⟨u, v, hcreate, hdirs⟩ := exists_run_of_mem h hstep
  exact arrivesAt_of_create (isFileName_of_mem hmodel) (isFileName_of_mem hname) hcreate hdirs
    (Nat.le_trans (utf8ByteSize_child_le e.dir hshort) hlimit)

/-- A place of the second part is free after the first, if it was free before. -/
theorem free_after_firstPart {r : Replacement} (hr : r ∈ e.secondPart c)
    (hclear : e.IsClear before r) {q : Place} (hq : q ∈ r.places)
    (hfree : before.find? q ≠ some .directory) :
    ((e.firstPart c before).run before).tree.find? q ≠ some .directory := by
  obtain ⟨hne, -, hothers⟩ := e.model_places c
  rcases interrupted_run (e.firstPart c before) before with ⟨-, hdone⟩ | ⟨p, rest, fault, hsome, -⟩
  · rcases interrupted_append hdone with ⟨p, more, hrest, -⟩ | ⟨middle, hdirs, hmodel⟩
    · cases hrest
    · rcases interrupted_replace hne hmodel with ⟨hnil, -⟩ | ⟨-, -, hagree⟩
      · exact absurd rfl hnil
      · rw [hagree q (hothers r hr q hq)]
        rcases onlyMakes_makeDirectories hdirs q with hsame | ⟨hway, -⟩
        · rw [hsame]
          exact hfree
        · exact absurd hway (hclear.aside q hq)
  · rw [h] at hsome
    cases hsome

/-- **Where nothing is in the way of the scaler and the manifest, the second part of an export
cannot fail.** -/
theorem fault_secondPart (hlimit : (e.dir.child manifestFile).text.utf8ByteSize ≤ pathLimit)
    (hclear : ∀ r ∈ e.secondPart c, e.IsClear before r) :
    ((replaceAll (e.secondPart c)).run ((e.firstPart c before).run before).tree).fault = none := by
  have hready : ∀ r ∈ e.secondPart c, ∀ name ∈ fileNames, ∀ temporary ∈ fileNames,
      name.utf8ByteSize ≤ manifestFile.utf8ByteSize →
      temporary.utf8ByteSize ≤ manifestFile.utf8ByteSize → r.target = e.dir.child name →
      r.temporary = e.dir.child temporary →
      r.IsReady e.dir ((e.firstPart c before).run before).tree := by
    intro r hr name hname temporary htemporary hshort hshort' htarget htemporary'
    have hclear := hclear r hr
    exact {
      target := ⟨name, isFileName_of_mem hname, htarget,
        arrivesAt_after_firstPart h hlimit hname hshort⟩
      temporary := ⟨temporary, isFileName_of_mem htemporary, htemporary',
        arrivesAt_after_firstPart h hlimit htemporary hshort'⟩
      target_free := free_after_firstPart h hr hclear List.mem_cons_self hclear.target
      temporary_free := free_after_firstPart h hr hclear
        (List.mem_cons_of_mem _ List.mem_cons_self) hclear.temporary }
  refine fault_run_replaceAll e.dir (e.model_places c).2.1 fun r hr => ?_
  have hr' := hr
  simp only [secondPart, List.mem_cons, List.not_mem_nil, or_false] at hr'
  rcases hr' with rfl | rfl
  · exact hready _ hr scalerFile (by decide) scalerTemporary (by decide) (by decide) (by decide)
      rfl rfl
  · exact hready _ hr manifestFile (by decide) manifestTemporary (by decide) (by decide)
      (by decide) rfl rfl

end

/-- **A failed export with nothing in its way keeps all three files.** -/
theorem failed_keeps (h : (e.run t now before).result = .error (.artifact path fault))
    (hlimit : (e.dir.child manifestFile).text.utf8ByteSize ≤ pathLimit)
    (hclear : ∀ r ∈ e.secondPart (contents t now), e.IsClear before r) :
    ∀ r ∈ e.replacements (contents t now),
      e.Keeps before (e.run t now before).files r.target.place := by
  obtain ⟨hfault, hfiles⟩ := fault_of_result h
  rw [plan_eq_parts, run_append] at hfault hfiles
  rw [hfiles]
  cases hfirst : ((e.firstPart (contents t now) before).run before).fault with
  | none =>
    rw [hfirst] at hfault
    rw [Option.isNone_none, if_pos rfl, fault_secondPart hfirst hlimit hclear] at hfault
    cases hfault
  | some blame =>
    rw [Option.isNone_some, if_neg (by simp)]
    exact keeps_of_fault_firstPart (by rw [hfirst]; simp)

/-- **What an export leaves behind that failed on the files.**  It has replaced the files before the
one it failed at and kept all others; it has kept the manifest in any case; and it has kept all
three where nothing stood in the way of the later two, and faults are those of a file tree. -/
theorem failed_leaves (h : (e.run t now before).result = .error (.artifact path fault)) :
    (∃ done r pending, e.replacements (contents t now) = done ++ r :: pending ∧
      (path = e.dir ∧ done = [] ∨ r.Blames path) ∧
      (∀ d ∈ done,
        (e.run t now before).files.bytesAt? d.target.place = some d.bytes) ∧
      ∀ k ∈ r :: pending, e.Keeps before (e.run t now before).files k.target.place ∧
        (e.run t now before).files.bytesAt? k.target.place =
          before.bytesAt? k.target.place) ∧
      (e.run t now before).files.bytesAt? (e.dir.child manifestFile).place =
        before.bytesAt? (e.dir.child manifestFile).place ∧
      ((e.dir.child manifestFile).text.utf8ByteSize ≤ pathLimit →
        (∀ r ∈ e.secondPart (contents t now), e.IsClear before r) →
        ∀ r ∈ e.replacements (contents t now),
          e.Keeps before (e.run t now before).files r.target.place ∧
          (e.run t now before).files.bytesAt? r.target.place =
            before.bytesAt? r.target.place) := by
  obtain ⟨done, r, pending, hsplit, hblame, hdone, hkept⟩ := exists_failed h
  refine ⟨⟨done, r, pending, hsplit, hblame, fun d hd => bytesAt?_of_find? (hdone d hd),
    fun k hk => ⟨hkept k hk, bytesAt?_of_keeps (hkept k hk)⟩⟩, ?_, fun hlimit hclear r hr => ?_⟩
  · -- The manifest is the last file, and the last file is kept.
    have hlast : (r :: pending).getLast? = some (e.manifestReplacement (contents t now)) := by
      rw [← getLast?_replacements, hsplit,
        List.getLast?_append_of_ne_nil _ (List.cons_ne_nil r pending)]
    have hmanifest := bytesAt?_of_keeps (hkept _ (List.mem_of_getLast? hlast))
    rwa [target_manifestReplacement] at hmanifest
  · have hkeeps := failed_keeps h hlimit hclear r hr
    exact ⟨hkeeps, bytesAt?_of_keeps hkeeps⟩

end

/-! ## 3.  A directory in the way of the scaler -/

/-- Artifacts from before, with a directory where the scaler should be. -/
def sampleObstructed : FileTree := ⟨[
  (["out"], .directory), (["out", "model.json"], .file ByteArray.empty),
  (["out", "scaler.json"], .directory), (["out", "feature_manifest.json"], .file ByteArray.empty)]⟩

/-- The export of the sample fails at the scaler.  The manifest is the one from before, and the
model is not. -/
theorem failed_sampleObstructed :
    (sampleExporter.run sampleTrained sampleInstant sampleObstructed).result =
        .error (.artifact ⟨"out/scaler.json"⟩ .isADirectory) ∧
      (sampleExporter.run sampleTrained sampleInstant sampleObstructed).files.bytesAt?
        ["out", "model.json"] = some (contents sampleTrained sampleInstant).model ∧
      (sampleExporter.run sampleTrained sampleInstant sampleObstructed).files.bytesAt?
        (sampleExporter.dir.child manifestFile).place = some ByteArray.empty := by
  have hplan : ∀ c : Contents,
      ((sampleExporter.plan c sampleObstructed).run sampleObstructed).fault =
          some (⟨"out/scaler.json"⟩, .isADirectory) ∧
        ((sampleExporter.plan c sampleObstructed).run sampleObstructed).tree.bytesAt?
          ["out", "model.json"] = some (ByteArray.empty ++ c.model) :=
    fun c => ⟨rfl, rfl⟩
  have hverify : sampleExporter.verify (manifest sampleInstant) = .ok () := rfl
  obtain ⟨hfault, hmodel⟩ := hplan (contents sampleTrained sampleInstant)
  have hresult : (sampleExporter.run sampleTrained sampleInstant sampleObstructed).result =
      .error (.artifact ⟨"out/scaler.json"⟩ .isADirectory) := by
    rw [run, hverify]
    simp only [hfault]
  have hfiles := (fault_of_result hresult).2
  have hmanifest := (failed_leaves hresult).2.1
  refine ⟨hresult, ?_, hmanifest.trans rfl⟩
  rw [hfiles, hmodel, ByteArray.empty_append]

end Exporter
end FleetScore
