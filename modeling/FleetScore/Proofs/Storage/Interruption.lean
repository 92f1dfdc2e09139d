import FleetScore.Proofs.Storage.Paths
import FleetScore.Storage.Plan

/-!
# What a plan leaves behind

A plan can be cut short: a step fails, the power goes, an observer looks in between.  Between two
steps the files are what the steps so far made of them, and while bytes are being written there
may be any part of them.  `Interrupted` relates the files before a plan to all files that may be
found in this way; the files that a plan leaves when it runs are among them
(`interrupted_run`).

* Each step is inverted once (`makeDirectory_eq_ok`, `create_eq_ok`, `append_eq_ok`,
  `rename_eq_ok`), and from then on only the place it changes and what it puts there count.
* `interrupted_replace` --- one replaced file is untouched or complete, and nothing else but its
  temporary sibling is changed.
* `interrupted_replaceAll` --- of several files that are replaced one after the other, some first
  ones are complete and the others untouched.
* `onlyMakes_makeDirectories` --- the making of directories puts directories where nothing was.

That a file is complete does not follow from its last step alone.  A rename moves whatever stands
at the temporary sibling, and it is the three steps before it that put all the bytes there.
-/

namespace FleetScore

/-! ## 1.  Looking after a change -/

namespace FileTree

variable {t u v : FileTree} {place q : Place} {entry : Entry}

theorem lookup_filter_ne (entries : List (Place × Entry)) (h : q ≠ place) :
    (entries.filter fun e => decide (e.1 ≠ place)).lookup q = entries.lookup q := by
  induction entries with
  | nil => rfl
  | cons e entries ih =>
    obtain ⟨p, entry⟩ := e
    by_cases hp : p = place
    · have hqp : (q == p) = false := by simpa [hp] using h
      rw [List.filter_cons_of_neg (by simpa using hp), ih, List.lookup_cons, hqp]
    · rw [List.filter_cons_of_pos (by simpa using hp), List.lookup_cons, List.lookup_cons, ih]

/-- What is put at a place is found there; bases stay what they are. -/
theorem find?_put_self (h : t.find? place ≠ some .directory) :
    (t.put place entry).find? place = some entry := by
  have hbase : ¬ place.isBase = true := fun hbase => h (if_pos hbase)
  rw [find?, if_neg hbase, put, List.lookup_cons, beq_self_eq_true]

theorem find?_put_of_ne (h : q ≠ place) : (t.put place entry).find? q = t.find? q := by
  have hq : (q == place) = false := by simpa using h
  rw [find?, find?, put, List.lookup_cons, hq, lookup_filter_ne _ h]

theorem find?_remove_of_ne (h : q ≠ place) : (t.remove place).find? q = t.find? q := by
  rw [find?, find?, remove, lookup_filter_ne _ h]

/-- Whether two trees hold the same everywhere but at some places. -/
def AgreeExcept (places : List Place) (t u : FileTree) : Prop :=
  ∀ q, q ∉ places → u.find? q = t.find? q

theorem AgreeExcept.refl (places : List Place) (t : FileTree) : AgreeExcept places t t :=
  fun _ _ => rfl

theorem AgreeExcept.trans {places : List Place} (h : AgreeExcept places t u)
    (h' : AgreeExcept places u v) : AgreeExcept places t v :=
  fun q hq => (h' q hq).trans (h q hq)

theorem AgreeExcept.mono {places places' : List Place} (hsub : places ⊆ places')
    (h : AgreeExcept places t u) : AgreeExcept places' t u :=
  fun q hq => h q fun hmem => hq (hsub hmem)

theorem agreeExcept_put (t : FileTree) (place : Place) (entry : Entry) :
    AgreeExcept [place] t (t.put place entry) :=
  fun _ hq => find?_put_of_ne (List.ne_of_not_mem_cons hq)

/-- Whether all directories of a tree are directories of another. -/
def KeepsDirectories (t u : FileTree) : Prop :=
  ∀ q, t.find? q = some .directory → u.find? q = some .directory

theorem AgreeExcept.keepsDirectories {places : List Place} (h : AgreeExcept places t u)
    (hplaces : ∀ q ∈ places, t.find? q ≠ some .directory) : KeepsDirectories t u := by
  intro q hq
  rw [h q fun hmem => hplaces q hmem hq]
  exact hq

/-! ## 2.  Single steps -/

theorem bind_eq_ok {α β : Type} {x : Except FileFault α} {f : α → Except FileFault β} {b : β}
    (h : (x >>= f) = .ok b) : ∃ a, x = .ok a ∧ f a = .ok b := by
  cases x with
  | error fault => cases h
  | ok a => exact ⟨a, rfl, h⟩

theorem look_eq_ok {name : String} {found : Option Entry} (h : t.look place name = .ok found) :
    found = t.find? (place.step name) := by
  rw [look] at h
  split at h
  · cases h
  · exact (Except.ok.inj h).symm

variable {path : Path}

/-- A walk and a look at its last name find what stands at the place of the path. -/
theorem find?_of_walk_look {spot : Spot} {found : Option Entry} (hwalk : t.walk path = .ok spot)
    (hlook : t.look spot.dir spot.name = .ok found) : found = t.find? path.place := by
  rw [look_eq_ok hlook, ← place_of_walk hwalk]
  rfl

theorem makeDirectory_eq_ok (h : t.makeDirectory path = .ok u) :
    u = t ∨ t.find? path.place = none ∧ u = t.put path.place .directory := by
  obtain ⟨spot, hwalk, h⟩ := bind_eq_ok h
  obtain ⟨found, hlook, h⟩ := bind_eq_ok h
  have hfound : found = t.find? path.place := find?_of_walk_look hwalk hlook
  rcases found with _ | ⟨_ | bytes⟩
  · rw [← place_of_walk hwalk]
    exact .inr ⟨(place_of_walk hwalk) ▸ hfound.symm, (Except.ok.inj h).symm⟩
  · exact .inl (Except.ok.inj h).symm
  · cases h

theorem create_eq_ok (h : t.create path = .ok u) :
    t.find? path.place ≠ some .directory ∧ u = t.put path.place (.file ByteArray.empty) := by
  obtain ⟨spot, hwalk, h⟩ := bind_eq_ok h
  split at h
  · obtain ⟨found, hlook, h⟩ := bind_eq_ok h
    have hfound : found = t.find? path.place := find?_of_walk_look hwalk hlook
    rw [← hfound, ← place_of_walk hwalk]
    rcases found with _ | ⟨_ | bytes⟩
    · exact ⟨Option.some_ne_none _ |>.symm, (Except.ok.inj h).symm⟩
    · cases h
    · exact ⟨by simp, (Except.ok.inj h).symm⟩
  · cases h

theorem append_eq_ok {bytes : ByteArray} (h : t.append path bytes = .ok u) :
    ∃ old, t.find? path.place = some (.file old) ∧
      u = t.put path.place (.file (old ++ bytes)) := by
  obtain ⟨spot, hwalk, h⟩ := bind_eq_ok h
  obtain ⟨found, hlook, h⟩ := bind_eq_ok h
  have hfound : found = t.find? path.place := find?_of_walk_look hwalk hlook
  rw [← hfound, ← place_of_walk hwalk]
  rcases found with _ | ⟨_ | old⟩
  · cases h
  · cases h
  · exact ⟨old, rfl, (Except.ok.inj h).symm⟩

theorem rename_eq_ok {source target : Path} (h : t.rename source target = .ok u) :
    ∃ bytes, t.find? source.place = some (.file bytes) ∧
      t.find? target.place ≠ some .directory ∧
      u = (t.remove source.place).put target.place (.file bytes) := by
  obtain ⟨sourceSpot, hsource, h⟩ := bind_eq_ok h
  obtain ⟨targetSpot, htarget, h⟩ := bind_eq_ok h
  split at h
  · obtain ⟨replaced, hreplaced, h⟩ := bind_eq_ok h
    obtain ⟨found, hlook, h⟩ := bind_eq_ok h
    have hfound : found = t.find? source.place := find?_of_walk_look hsource hlook
    have hreplaced : replaced = t.find? target.place := find?_of_walk_look htarget hreplaced
    rw [← hfound, ← hreplaced, ← place_of_walk hsource, ← place_of_walk htarget]
    rcases found with _ | ⟨_ | bytes⟩
    · cases h
    · cases h
    · dsimp only at h
      by_cases hclosed : targetSpot.closed = true
      · rw [if_pos hclosed] at h
        cases h
      · rw [if_neg hclosed] at h
        rcases replaced with _ | ⟨_ | old⟩
        · exact ⟨bytes, rfl, by simp, (Except.ok.inj h).symm⟩
        · cases h
        · exact ⟨bytes, rfl, by simp, (Except.ok.inj h).symm⟩
  · cases h

end FileTree

/-! ## 3.  Interruption -/

namespace Plan

open FileTree

/-- What may be found on the files while a plan is carried out, or after it was cut short with
`rest` still to do: the files after the steps so far, and while bytes are appended also the files
with a first part of them. -/
inductive Interrupted : Plan → (rest : Plan) → FileTree → FileTree → Prop where
  | here (plan : Plan) (t : FileTree) : Interrupted plan plan t t
  | partly {path blamed : Path} {bytes : ByteArray} {rest : Plan} {t u : FileTree} (n : Nat)
      (h : t.append path (bytes.extract 0 n) = .ok u) :
      Interrupted (⟨.append path bytes, blamed⟩ :: rest) (⟨.append path bytes, blamed⟩ :: rest) t u
  | onward {p : PlannedStep} {plan rest : Plan} {t u v : FileTree} (h : p.step.run t = .ok u)
      (later : Interrupted plan rest u v) : Interrupted (p :: plan) rest t v

variable {t u v : FileTree} {plan rest : Plan}

theorem interrupted_nil (h : Interrupted [] rest t v) : rest = [] ∧ v = t := by
  cases h
  exact ⟨rfl, rfl⟩

theorem Interrupted.subset (h : Interrupted plan rest t v) : rest ⊆ plan := by
  induction h with
  | here => exact List.Subset.refl _
  | partly => exact List.Subset.refl _
  | onward _ _ ih => exact List.subset_cons_of_subset _ ih

/-- **What a plan leaves when it runs** may be found on the files, with nothing left to do if no
step failed, and else with the step that failed. -/
theorem interrupted_run (plan : Plan) (t : FileTree) :
    (plan.run t).fault = none ∧ Interrupted plan [] t (plan.run t).tree ∨
      ∃ p rest fault, (plan.run t).fault = some (p.blamed, fault) ∧
        Interrupted plan (p :: rest) t (plan.run t).tree := by
  induction plan generalizing t with
  | nil => exact .inl ⟨rfl, .here [] t⟩
  | cons p plan ih =>
    rw [run]
    cases hstep : p.step.run t with
    | error fault => exact .inr ⟨p, plan, fault, rfl, .here _ t⟩
    | ok u =>
      rcases ih u with ⟨hnone, hdone⟩ | ⟨q, rest, fault, hfault, hcut⟩
      · exact .inl ⟨hnone, .onward hstep hdone⟩
      · exact .inr ⟨q, rest, fault, hfault, .onward hstep hcut⟩

/-- **A plan in two parts** is cut short in the first, or in the second after the first was
carried out. -/
theorem interrupted_append {a b : Plan} (h : Interrupted (a ++ b) rest t v) :
    (∃ p pending, rest = p :: pending ++ b ∧ Interrupted a (p :: pending) t v) ∨
      ∃ u, Interrupted a [] t u ∧ Interrupted b rest u v := by
  induction a generalizing t with
  | nil => exact .inr ⟨t, .here [] t, h⟩
  | cons p a ih =>
    rw [List.cons_append] at h
    cases h with
    | here => exact .inl ⟨p, a, rfl, .here _ _⟩
    | partly n happend => exact .inl ⟨_, a, rfl, .partly n happend⟩
    | onward hstep later =>
      rcases ih later with ⟨q, pending, hrest, hfirst⟩ | ⟨u, hfirst, hsecond⟩
      · exact .inl ⟨q, pending, hrest, .onward hstep hfirst⟩
      · exact .inr ⟨u, .onward hstep hfirst, hsecond⟩

/-! ## 4.  Making directories -/

/-- Whether one tree comes from another by making directories at some places where nothing
was. -/
def OnlyMakes (places : List Place) (t u : FileTree) : Prop :=
  ∀ q, u.find? q = t.find? q ∨
    q ∈ places ∧ t.find? q = none ∧ u.find? q = some .directory

/-- Steps that make directories leave directories where nothing was. -/
theorem onlyMakes_of_interrupted {paths : List Path} {blamed : Path}
    (h : Interrupted (paths.map fun path => ⟨.makeDirectory path, blamed⟩) rest t v) :
    OnlyMakes (paths.map Path.place) t v := by
  induction paths generalizing t with
  | nil =>
    obtain ⟨-, rfl⟩ := interrupted_nil h
    exact fun q => .inl rfl
  | cons path paths ih =>
    rw [List.map_cons] at h ⊢
    cases h with
    | here => exact fun q => .inl rfl
    | onward hstep later =>
      intro q
      have hlater := ih later q
      rcases makeDirectory_eq_ok hstep with rfl | ⟨hnone, rfl⟩
      · rcases hlater with hsame | ⟨hmem, hmade⟩
        · exact .inl hsame
        · exact .inr ⟨List.mem_cons_of_mem _ hmem, hmade⟩
      · have hself : (t.put path.place .directory).find? path.place = some .directory :=
          find?_put_self (by simp [hnone])
        by_cases hq : q = path.place
        · subst hq
          rw [hself] at hlater
          rcases hlater with hsame | ⟨-, hnothing, -⟩
          · exact .inr ⟨List.mem_cons_self, hnone, hsame⟩
          · cases hnothing
        · rw [find?_put_of_ne hq] at hlater
          rcases hlater with hsame | ⟨hmem, hmade⟩
          · exact .inl hsame
          · exact .inr ⟨List.mem_cons_of_mem _ hmem, hmade⟩

/-- **Making a directory with what lies above it** leaves directories where nothing was, on the
way of its path. -/
theorem onlyMakes_makeDirectories {files : FileTree} {dir : Path}
    (h : Interrupted (makeDirectories files dir) rest t v) : OnlyMakes dir.way t v := by
  rw [makeDirectories] at h
  intro q
  rcases onlyMakes_of_interrupted h q with hsame | ⟨hmem, hmade⟩
  · exact .inl hsame
  · refine .inr ⟨?_, hmade⟩
    obtain ⟨path, hpath, rfl⟩ := List.mem_map.mp hmem
    refine List.mem_map_of_mem ?_
    rcases List.mem_append.mp hpath with hfirst | hstranded
    · rw [Option.mem_toList] at hfirst
      exact List.mem_of_mem_drop (List.mem_of_head? hfirst)
    · exact (List.takeWhile_sublist _).subset (List.mem_reverse.mp hstranded)

theorem blamed_of_mem_makeDirectories {files : FileTree} {dir : Path} {p : PlannedStep}
    (h : p ∈ makeDirectories files dir) : p.blamed = dir := by
  obtain ⟨path, -, rfl⟩ := List.mem_map.mp h
  rfl

/-! ## 5.  Replacing files -/

/-- A file that is to be replaced, with its temporary sibling and its new bytes. -/
structure Replacement where
  target : Path
  temporary : Path
  bytes : ByteArray

namespace Replacement

/-- The two places that a replacement may change. -/
def places (r : Replacement) : List Place := [r.target.place, r.temporary.place]

/-- The steps of a replacement. -/
def steps (r : Replacement) : Plan := replace r.target r.temporary r.bytes

/-- Whether a file holds its new bytes. -/
def IsDone (r : Replacement) (t : FileTree) : Prop := t.find? r.target.place = some (.file r.bytes)

/-- Whether a path is one of the two that a replacement blames. -/
def Blames (r : Replacement) (path : Path) : Prop := path = r.temporary ∨ path = r.target

theorem blames_of_mem_steps {r : Replacement} {p : PlannedStep} (h : p ∈ r.steps) :
    r.Blames p.blamed := by
  rw [steps, replace] at h
  simp only [List.mem_cons, List.not_mem_nil, or_false] at h
  rcases h with rfl | rfl | rfl | rfl
  · exact .inl rfl
  · exact .inl rfl
  · exact .inl rfl
  · exact .inr rfl

end Replacement

variable {r : Replacement}

/-- **A replaced file is untouched until all steps are done, and then it is complete.**  While it
is untouched, nothing but its temporary sibling has changed. -/
theorem interrupted_replace (hne : r.target.place ≠ r.temporary.place)
    (h : Interrupted r.steps rest t v) :
    rest ≠ [] ∧ AgreeExcept [r.temporary.place] t v ∨
      rest = [] ∧ r.IsDone v ∧ AgreeExcept r.places t v := by
  rw [Replacement.steps, replace] at h
  cases h with
  | here => exact .inl ⟨List.cons_ne_nil _ _, .refl _ _⟩
  | onward hcreate h =>
    obtain ⟨hfree, rfl⟩ := create_eq_ok hcreate
    have hcreated := agreeExcept_put t r.temporary.place (.file ByteArray.empty)
    have hempty : (t.put r.temporary.place (.file ByteArray.empty)).find? r.temporary.place =
        some (.file ByteArray.empty) := find?_put_self hfree
    cases h with
    | here => exact .inl ⟨List.cons_ne_nil _ _, hcreated⟩
    | partly n happend =>
      obtain ⟨old, -, rfl⟩ := append_eq_ok happend
      exact .inl ⟨List.cons_ne_nil _ _, hcreated.trans (agreeExcept_put _ _ _)⟩
    | onward happend h =>
      obtain ⟨old, hold, rfl⟩ := append_eq_ok happend
      have hold : old = ByteArray.empty := by
        rw [hempty] at hold
        cases hold
        rfl
      subst hold
      have happended := hcreated.trans
        (agreeExcept_put _ r.temporary.place (.file (ByteArray.empty ++ r.bytes)))
      cases h with
      | here => exact .inl ⟨List.cons_ne_nil _ _, happended⟩
      | onward hsync h =>
        cases hsync
        cases h with
        | here => exact .inl ⟨List.cons_ne_nil _ _, happended⟩
        | onward hrename h =>
          obtain ⟨bytes, hbytes, htarget, rfl⟩ := rename_eq_ok hrename
          obtain ⟨rfl, rfl⟩ := interrupted_nil h
          rw [find?_put_self (by simp [hempty]), ByteArray.empty_append] at hbytes
          have hbytes : bytes = r.bytes := by
            cases hbytes
            rfl
          subst hbytes
          refine .inr ⟨rfl, find?_put_self ?_, fun q hq => ?_⟩
          · rw [find?_remove_of_ne hne]
            exact htarget
          · obtain ⟨hqtarget, hqtemporary⟩ : q ≠ r.target.place ∧ q ≠ r.temporary.place := by
              simpa [Replacement.places] using hq
            rw [find?_put_of_ne hqtarget, find?_remove_of_ne hqtemporary]
            exact happended q (by simpa using hqtemporary)

/-- The steps that replace several files one after the other. -/
def replaceAll (rs : List Replacement) : Plan := rs.flatMap Replacement.steps

/-- Files that are to be replaced, some of them already, the others untouched.  What is to be
done next belongs to the first of the files that are not complete. -/
structure Halfway (rs done pending : List Replacement) (rest : Plan) (t v : FileTree) : Prop where
  split : rs = done ++ pending
  complete : ∀ r ∈ done, r.IsDone v
  untouched : ∀ r ∈ pending, v.find? r.target.place = t.find? r.target.place
  confined : AgreeExcept (rs.flatMap Replacement.places) t v
  finished : rest = [] → pending = []
  blamed : ∀ p ∈ rest.head?, ∃ r ∈ pending.head?, r.Blames p.blamed

/-- **Of several files that are replaced one after the other, some first ones are complete and the
others untouched**, whenever one looks. -/
theorem interrupted_replaceAll {rs : List Replacement}
    (hnodup : (rs.flatMap Replacement.places).Nodup) (h : Interrupted (replaceAll rs) rest t v) :
    ∃ done pending, Halfway rs done pending rest t v := by
  induction rs generalizing t with
  | nil =>
    obtain ⟨rfl, rfl⟩ := interrupted_nil h
    refine ⟨[], [], rfl, ?_, ?_, .refl _ _, fun _ => rfl, ?_⟩ <;> simp
  | cons r rs ih =>
    rw [List.flatMap_cons] at hnodup
    obtain ⟨hpair, hrest, hdisjoint⟩ := List.nodup_append.mp hnodup
    have hne : r.target.place ≠ r.temporary.place := by
      simpa [Replacement.places] using hpair
    rw [replaceAll, List.flatMap_cons] at h
    rcases interrupted_append h with ⟨p, more, rfl, hfirst⟩ | ⟨u, hfirst, hsecond⟩
    · -- The file that comes first is being replaced.
      have hagree : AgreeExcept [r.temporary.place] t v := by
        rcases interrupted_replace hne hfirst with ⟨-, hagree⟩ | ⟨hnil, -⟩
        · exact hagree
        · cases hnil
      refine ⟨[], r :: rs, rfl, by simp, ?_, hagree.mono ?_, by simp, ?_⟩
      · intro r' hr'
        refine hagree _ fun hmem => ?_
        rw [List.mem_singleton] at hmem
        rcases List.mem_cons.mp hr' with rfl | hr'
        · exact hne hmem
        · have hplace : r'.target.place ∈ rs.flatMap Replacement.places :=
            List.mem_flatMap.mpr ⟨r', hr', List.mem_cons_self⟩
          exact hdisjoint _ (by simp [Replacement.places, hmem]) _ hplace rfl
      · simp [Replacement.places]
      · intro q hq
        obtain rfl : p = q := by simpa using hq
        exact ⟨r, rfl, Replacement.blames_of_mem_steps (hfirst.subset List.mem_cons_self)⟩
    · -- It is complete, and the rest of the plan does not touch it.
      obtain ⟨hdone, hagree⟩ : r.IsDone u ∧ AgreeExcept r.places t u := by
        rcases interrupted_replace hne hfirst with ⟨hnil, -⟩ | ⟨-, hdone⟩
        · exact absurd rfl hnil
        · exact hdone
      obtain ⟨done, pending, hlater⟩ := ih hrest hsecond
      refine ⟨r :: done, pending, by rw [hlater.split]; rfl, ?_, ?_, ?_, hlater.finished,
        hlater.blamed⟩
      · intro r' hr'
        rcases List.mem_cons.mp hr' with rfl | hr'
        · rw [Replacement.IsDone, hlater.confined _ fun hmem =>
            hdisjoint _ List.mem_cons_self _ hmem rfl]
          exact hdone
        · exact hlater.complete r' hr'
      · intro r' hr'
        have hplace : r'.target.place ∈ rs.flatMap Replacement.places :=
          List.mem_flatMap.mpr ⟨r', by simp [hlater.split, hr'], List.mem_cons_self⟩
        rw [hlater.untouched r' hr']
        exact hagree _ fun hmem => hdisjoint _ hmem _ hplace rfl
      · rw [List.flatMap_cons]
        exact (hagree.mono (List.subset_append_left _ _)).trans
          (hlater.confined.mono (List.subset_append_right _ _))

end Plan
end FleetScore
