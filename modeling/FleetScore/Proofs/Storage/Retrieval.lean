import FleetScore.Proofs.Storage.Success

/-!
# What was written can be read

A file is read by walking to it, and the walk enters the directories of its path.  No step of a plan
removes a directory (`keepsDirectories_step`).  So where a step has walked, a walk after the plan
arrives too, and a file that the plan moved into its place can be read there
(`read_child`).
-/

namespace FleetScore

open FileTree

/-! ## 1.  Directories stay -/

namespace FileTree

variable {t u v : FileTree} {place : Place}

theorem KeepsDirectories.refl (t : FileTree) : KeepsDirectories t t := fun _ h => h

theorem KeepsDirectories.trans (h : KeepsDirectories t u) (h' : KeepsDirectories u v) :
    KeepsDirectories t v := fun q hq => h' q (h q hq)

theorem keepsDirectories_put {entry : Entry} (h : t.find? place ≠ some .directory) :
    KeepsDirectories t (t.put place entry) :=
  (agreeExcept_put t place entry).keepsDirectories (by simpa using h)

end FileTree

namespace Plan

/-- **No step removes a directory.** -/
theorem keepsDirectories_step {step : FileStep} {t u : FileTree} (h : step.run t = .ok u) :
    KeepsDirectories t u := by
  cases step with
  | makeDirectory path =>
    obtain rfl | ⟨hnone, rfl⟩ := makeDirectory_eq_ok h
    · exact .refl _
    · exact keepsDirectories_put (by simp [hnone])
  | create path =>
    obtain ⟨hfree, rfl⟩ := create_eq_ok h
    exact keepsDirectories_put hfree
  | append path bytes =>
    obtain ⟨old, hold, rfl⟩ := append_eq_ok h
    exact keepsDirectories_put (by simp [hold])
  | sync path =>
    obtain rfl := Except.ok.inj h
    exact .refl _
  | rename source target =>
    obtain ⟨bytes, hsource, htarget, rfl⟩ := rename_eq_ok h
    intro q hq
    have hqsource : q ≠ source.place := by
      rintro rfl
      rw [hsource] at hq
      cases hq
    have hqtarget : q ≠ target.place := by
      rintro rfl
      exact htarget hq
    rw [find?_put_of_ne hqtarget, find?_remove_of_ne hqsource]
    exact hq

/-- **No plan removes a directory.** -/
theorem keepsDirectories_run (plan : Plan) (t : FileTree) :
    KeepsDirectories t (run plan t).tree := by
  induction plan generalizing t with
  | nil => exact .refl t
  | cons p plan ih =>
    rw [run]
    cases hstep : p.step.run t with
    | error fault => exact .refl t
    | ok u => exact (keepsDirectories_step hstep).trans (ih u)

/-! ## 2.  Walks that have arrived -/

/-- After a plan that succeeded, directories are still there that were there at any step of it. -/
theorem exists_run_of_mem {plan : Plan} {t : FileTree} (h : (run plan t).fault = none)
    {p : PlannedStep} (hp : p ∈ plan) :
    ∃ u v, p.step.run u = .ok v ∧ KeepsDirectories u (run plan t).tree := by
  induction plan generalizing t with
  | nil => cases hp
  | cons q plan ih =>
    rw [run] at h ⊢
    cases hstep : q.step.run t with
    | error fault =>
      rw [hstep] at h
      cases h
    | ok u =>
      rw [hstep] at h
      obtain rfl | hp := List.mem_cons.1 hp
      · exact ⟨t, u, hstep, (keepsDirectories_step hstep).trans (keepsDirectories_run plan u)⟩
      · exact ih h hp

/-- **A file that was moved into its place can be walked to.** -/
theorem arrivesAt_of_mem {plan : Plan} {t : FileTree} (h : (run plan t).fault = none) {dir : Path}
    {name : String} (hname : Path.IsFileName name) {source blamed : Path}
    (hp : ⟨.rename source (dir.child name), blamed⟩ ∈ plan) :
    (run plan t).tree.ArrivesAt dir name := by
  obtain ⟨u, v, hstep, hdirs⟩ := exists_run_of_mem h hp
  obtain ⟨spot, hsource, hstep⟩ := bind_eq_ok hstep
  obtain ⟨spot', htarget, -⟩ := bind_eq_ok hstep
  rw [walk_child hname htarget] at htarget
  exact ArrivesAt.mono htarget hname hdirs

theorem read_child {t : FileTree} {dir : Path} {name : String} (hname : Path.IsFileName name)
    (harrives : t.ArrivesAt dir name) {bytes : ByteArray}
    (hfile : t.find? (dir.child name).place = some (.file bytes)) :
    t.read (dir.child name) = .ok bytes := by
  rw [FileTree.read, harrives]
  simp only [bind, Except.bind, look_child hname, hfile, Bool.false_eq_true, if_false]

end Plan
end FleetScore
