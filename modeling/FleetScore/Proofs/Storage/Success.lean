import FleetScore.Proofs.Storage.Interruption

/-!
# When files can be replaced

That a step fails can have two reasons only: the walk to its file does not arrive, or a directory
stands where the file should be.  In a directory that one file was written into, walks to its
other files arrive (`arrivesAt_of_create`), so there only the second reason is left: files with
nothing in their way are replaced, to the last one (`run_replaceAll`).
-/

namespace FleetScore

/-! ## 1.  Steps that succeed -/

namespace FileTree

/-- Whether walks to a file of a directory arrive. -/
def ArrivesAt (t : FileTree) (dir : Path) (name : String) : Prop :=
  t.walk (dir.child name) = .ok ⟨dir.place, name, false⟩

variable {dir : Path} {name : String} (hname : Path.IsFileName name) {t : FileTree}

include hname

theorem place_spot_child : (⟨dir.place, name, false⟩ : Spot).place = (dir.child name).place := by
  have hdots := hname.isName
  simp only [Place.isName, Bool.and_eq_true, bne_iff_ne, ne_eq] at hdots
  rw [Path.place_child hname, Spot.place, Place.step, if_neg hdots.1, if_neg hdots.2]

theorem look_child : t.look dir.place name = .ok (t.find? (dir.child name).place) := by
  rw [look, if_neg (Nat.not_lt.mpr hname.short), ← place_spot_child hname]
  rfl

theorem create_child (harrives : t.ArrivesAt dir name)
    (hfree : t.find? (dir.child name).place ≠ some .directory) :
    t.create (dir.child name) =
      .ok (t.put (dir.child name).place (.file ByteArray.empty)) := by
  have htakes : (⟨dir.place, name, false⟩ : Spot).takesFile = true := by
    simp [Spot.takesFile, hname.isName]
  rw [create, harrives]
  simp only [bind, Except.bind, htakes, if_true, look_child hname, place_spot_child hname]

theorem append_child (harrives : t.ArrivesAt dir name) {old : ByteArray}
    (hfile : t.find? (dir.child name).place = some (.file old)) (bytes : ByteArray) :
    t.append (dir.child name) bytes =
      .ok (t.put (dir.child name).place (.file (old ++ bytes))) := by
  rw [append, harrives]
  simp only [bind, Except.bind, look_child hname, place_spot_child hname, hfile]

theorem rename_child (harrives : t.ArrivesAt dir name) {name' : String}
    (hname' : Path.IsFileName name') (harrives' : t.ArrivesAt dir name') {bytes : ByteArray}
    (hfile : t.find? (dir.child name).place = some (.file bytes))
    (hfree : t.find? (dir.child name').place ≠ some .directory) :
    t.rename (dir.child name) (dir.child name') =
      .ok ((t.remove (dir.child name).place).put (dir.child name').place (.file bytes)) := by
  rw [rename, harrives, harrives']
  simp only [bind, Except.bind, hname'.isName, if_true, look_child hname, look_child hname',
    place_spot_child hname, place_spot_child hname', hfile, Bool.false_eq_true, if_false]

omit hname in
theorem ArrivesAt.mono {t u : FileTree} (h : t.ArrivesAt dir name) (hname : Path.IsFileName name)
    (hdirs : KeepsDirectories t u) : u.ArrivesAt dir name := by
  have hlimit := (walk_eq_ok_iff.mp h).2.2.1
  exact walk_child_of_walk hname hname hdirs h hlimit

/-- **Where one file of a directory was created, walks to the others arrive**, as long as
directories stay and their paths are not too long. -/
theorem arrivesAt_of_create {name' : String} (hname' : Path.IsFileName name') {t u v : FileTree}
    (hcreate : t.create (dir.child name) = .ok u) (hdirs : KeepsDirectories t v)
    (hlimit : (dir.child name').text.utf8ByteSize ≤ pathLimit) : v.ArrivesAt dir name' := by
  obtain ⟨spot, hwalk, -⟩ := bind_eq_ok hcreate
  exact walk_child_of_walk hname hname' hdirs hwalk hlimit

end FileTree

/-! ## 2.  Plans that succeed -/

namespace Plan

open FileTree

/-- A plan in two parts runs the second if the first does not fail. -/
theorem run_append (a b : Plan) (t : FileTree) :
    run (a ++ b) t =
      if (run a t).fault.isNone then run b (run a t).tree else run a t := by
  induction a generalizing t with
  | nil => rfl
  | cons p a ih =>
    rw [List.cons_append, run, run]
    cases p.step.run t with
    | ok u => exact ih u
    | error fault => rfl

/-- Whether nothing stands in the way of the replacement of a file of a directory: walks to it and
to its temporary sibling arrive, and no directory stands at either. -/
structure Replacement.IsReady (r : Replacement) (dir : Path) (t : FileTree) : Prop where
  target : ∃ name, Path.IsFileName name ∧ r.target = dir.child name ∧ t.ArrivesAt dir name
  temporary : ∃ name, Path.IsFileName name ∧ r.temporary = dir.child name ∧ t.ArrivesAt dir name
  target_free : t.find? r.target.place ≠ some .directory
  temporary_free : t.find? r.temporary.place ≠ some .directory

/-- A replacement that is ready stays ready while directories stay and changes are elsewhere. -/
theorem Replacement.IsReady.mono {r : Replacement} {dir : Path} {t u : FileTree}
    (h : r.IsReady dir t) (hdirs : KeepsDirectories t u) {places : List Place}
    (hagree : AgreeExcept places t u) (hplaces : ∀ q ∈ r.places, q ∉ places) :
    r.IsReady dir u := by
  obtain ⟨name, hname, htarget, harrives⟩ := h.target
  obtain ⟨name', hname', htemporary, harrives'⟩ := h.temporary
  have hsame : u.find? r.target.place = t.find? r.target.place :=
    hagree _ (hplaces _ (by simp [Replacement.places]))
  have hsame' : u.find? r.temporary.place = t.find? r.temporary.place :=
    hagree _ (hplaces _ (by simp [Replacement.places]))
  exact {
    target := ⟨name, hname, htarget, harrives.mono hname hdirs⟩
    temporary := ⟨name', hname', htemporary, harrives'.mono hname' hdirs⟩
    target_free := by rw [hsame]; exact h.target_free
    temporary_free := by rw [hsame']; exact h.temporary_free }

/-- **A file with nothing in its way is replaced.** -/
theorem fault_run_steps {r : Replacement} {dir : Path} {t : FileTree}
    (hne : r.target.place ≠ r.temporary.place) (h : r.IsReady dir t) :
    (run r.steps t).fault = none := by
  obtain ⟨⟨name, hname, htarget, harrives⟩, ⟨name', hname', htemporary, harrives'⟩, hfree, hfree'⟩ :=
    h
  obtain ⟨target, temporary, bytes⟩ := r
  dsimp only at htarget htemporary hfree hfree' hne
  subst htarget htemporary
  have hkeeps : ∀ {u : FileTree}, AgreeExcept [(dir.child name').place] t u →
      KeepsDirectories t u := by
    intro u hu
    refine hu.keepsDirectories fun q hq => ?_
    rw [List.mem_singleton.mp hq]
    exact hfree'
  -- The temporary sibling is created ...
  obtain ⟨created, hcreated⟩ :
      ∃ u, u = t.put (dir.child name').place (.file ByteArray.empty) := ⟨_, rfl⟩
  have hcreate : t.create (dir.child name') = .ok created :=
    hcreated ▸ create_child hname' harrives' hfree'
  have hempty : created.find? (dir.child name').place = some (.file ByteArray.empty) :=
    hcreated ▸ find?_put_self hfree'
  have hagree : AgreeExcept [(dir.child name').place] t created := hcreated ▸ agreeExcept_put _ _ _
  -- ... and written, ...
  obtain ⟨written, hwritten⟩ :
      ∃ u, u = created.put (dir.child name').place (.file (ByteArray.empty ++ bytes)) := ⟨_, rfl⟩
  have happend : created.append (dir.child name') bytes = .ok written :=
    hwritten ▸ append_child hname' (harrives'.mono hname' (hkeeps hagree)) hempty bytes
  have hfull : written.find? (dir.child name').place = some (.file (ByteArray.empty ++ bytes)) :=
    hwritten ▸ find?_put_self (by simp [hempty])
  have hagree' : AgreeExcept [(dir.child name').place] t written :=
    hagree.trans (hwritten ▸ agreeExcept_put _ _ _)
  -- ... and moved to where no directory stands.
  have hrename := rename_child hname' (harrives'.mono hname' (hkeeps hagree')) hname
    (harrives.mono hname (hkeeps hagree')) hfull
    (by rw [hagree' _ (by simpa using hne)]; exact hfree)
  simp only [Replacement.steps, replace, run, FileStep.run, hcreate, happend, hrename]

/-- **Files with nothing in their way are replaced, to the last one.** -/
theorem fault_run_replaceAll (dir : Path) {rs : List Replacement} {t : FileTree}
    (hnodup : (rs.flatMap Replacement.places).Nodup) (h : ∀ r ∈ rs, r.IsReady dir t) :
    (run (replaceAll rs) t).fault = none := by
  induction rs generalizing t with
  | nil => rfl
  | cons r rs ih =>
    rw [List.flatMap_cons] at hnodup
    obtain ⟨hpair, hrest, hdisjoint⟩ := List.nodup_append.mp hnodup
    have hne : r.target.place ≠ r.temporary.place := by
      simpa [Replacement.places] using hpair
    have hready := h r List.mem_cons_self
    have hfirst := fault_run_steps hne hready
    have hagree : AgreeExcept r.places t (run r.steps t).tree := by
      rcases interrupted_run r.steps t with ⟨-, hdone⟩ | ⟨p, rest, fault, hfault, -⟩
      · rcases interrupted_replace hne hdone with ⟨hnil, -⟩ | ⟨-, -, hagree⟩
        · exact absurd rfl hnil
        · exact hagree
      · rw [hfirst] at hfault
        cases hfault
    have hdirs : KeepsDirectories t (run r.steps t).tree := by
      refine hagree.keepsDirectories fun q hq => ?_
      have hq : q = r.target.place ∨ q = r.temporary.place := by
        simpa [Replacement.places] using hq
      rcases hq with rfl | rfl
      · exact hready.target_free
      · exact hready.temporary_free
    rw [replaceAll, List.flatMap_cons, run_append, hfirst]
    refine ih hrest fun r' hr' => (h r' (List.mem_cons_of_mem _ hr')).mono hdirs hagree ?_
    intro q hq hmem
    exact hdisjoint q hmem q (List.mem_flatMap.mpr ⟨r', hr', hq⟩) rfl

end Plan
end FleetScore
