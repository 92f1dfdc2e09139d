import Mathlib
import FleetScore.Proofs.Training.ReportedResults

/-!
# Every example is learned from or held back

A training set is split by position.  Its three lists are cut one by one, by the same positions, so
nothing in the code says that an example is still one example afterwards: that its row did not get
the label of another, that it did not fall out of both halves, that it is not in both.

The statements here are about *entries*, the server, the row and the label at one position.  An
aligned set is a list of entries (`ofEntries_entries`), and what the code takes out of the three
lists is what one would take out of that one list (`at?_ofEntries`).

`split?_partitions` puts together what follows.

* Every `every`-th entry is held back and the others are learned from, in the order in which they
  were listed.  So both halves together are a rearrangement of the set, and `n / every` of `n`
  entries are held back (`countP_isHeldBack`).
* Where nothing could be held back, or there are fewer than two entries, both halves are the set.
* So a set that is not empty has two halves that are not empty, and training on it has data to learn
  from and data to validate on.
-/

namespace FleetScore

variable {R : Type}

/-! ## 1.  Members at some positions -/

section

variable {α : Type}

/-- The members of a list at the positions that pass a test, in their order. -/
def atPositions (p : ℕ → Bool) (xs : List α) : List α :=
  (xs.zipIdx.filter fun member => p member.2).map Prod.fst

theorem atPositions_cons (p : ℕ → Bool) (a : α) (xs : List α) :
    atPositions p (a :: xs) =
      (if p 0 then [a] else []) ++ atPositions (fun i => p (i + 1)) xs := by
  have hrest : ((xs.zipIdx 1).filter fun member => p member.2).map Prod.fst =
      atPositions (fun i => p (i + 1)) xs := by
    rw [atPositions, List.zipIdx_succ, List.filter_map, List.map_map]
    rfl
  rw [atPositions, List.zipIdx_cons, List.filter_cons, Nat.zero_add]
  dsimp only
  split
  · rw [List.map_cons, hrest, List.singleton_append]
  · rw [hrest, List.nil_append]

theorem filterMap_getElem?_range (p : ℕ → Bool) (xs : List α) :
    (((List.range xs.length).filter p).filterMap fun i => xs[i]?) = atPositions p xs := by
  induction xs generalizing p with
  | nil => rfl
  | cons a xs ih =>
    have hrest : (((List.range xs.length).map Nat.succ).filter p).filterMap
        (fun i => (a :: xs)[i]?) = atPositions (fun i => p (i + 1)) xs := by
      rw [List.filter_map, List.filterMap_map, ← ih fun i => p (i + 1)]
      rfl
    rw [List.length_cons, List.range_succ_eq_map, List.filter_cons, atPositions_cons]
    split
    · rw [List.filterMap_cons, hrest]
      rfl
    · rw [hrest, List.nil_append]

/-- **Every member is at one of the positions or at one of the others.** -/
theorem atPositions_append_perm (p : ℕ → Bool) (xs : List α) :
    (atPositions (fun i => !p i) xs ++ atPositions p xs).Perm xs := by
  have hperm := (List.filter_append_perm (fun member => p member.2) xs.zipIdx).map Prod.fst
  rw [List.map_append, List.zipIdx_map_fst] at hperm
  exact List.perm_append_comm.trans hperm

theorem length_atPositions (p : ℕ → Bool) (xs : List α) :
    (atPositions p xs).length = (List.range xs.length).countP p := by
  have hpositions : xs.zipIdx.map Prod.snd = List.range xs.length := by
    rw [List.zipIdx_map_snd, ← List.range_eq_range']
  rw [atPositions, List.length_map, ← List.countP_eq_length_filter, ← hpositions, List.countP_map]
  rfl

theorem atPositions_of_all {p : ℕ → Bool} {xs : List α} (h : ∀ i < xs.length, p i = true) :
    atPositions p xs = xs := by
  rw [atPositions, List.filter_eq_self.mpr, List.zipIdx_map_fst]
  rintro ⟨a, i⟩ hmember
  exact h i (List.snd_lt_of_mem_zipIdx hmember)

end

namespace TrainingSet

theorem isHeldBack_eq (every i : ℕ) : isHeldBack every i = decide (every ∣ i + 1) := by
  rw [isHeldBack, Bool.eq_iff_iff, beq_iff_eq, decide_eq_true_iff, Nat.dvd_iff_mod_eq_zero]

/-- **Of `n` positions, `n / every` are held back.** -/
theorem countP_isHeldBack (every n : ℕ) : (List.range n).countP (isHeldBack every) = n / every := by
  induction n with
  | zero => rw [Nat.zero_div]; rfl
  | succ n ih =>
    rw [List.range_succ, List.countP_append, ih, Nat.succ_div, List.countP_singleton,
      isHeldBack_eq]
    simp only [decide_eq_true_eq]

theorem length_heldBack {α : Type} (every : ℕ) (xs : List α) :
    (atPositions (isHeldBack every) xs).length = xs.length / every := by
  rw [length_atPositions, countP_isHeldBack]

theorem kept_ne_nil {α : Type} {every : ℕ} (hevery : 2 ≤ every) {xs : List α} (hne : xs ≠ []) :
    atPositions (fun i => !isHeldBack every i) xs ≠ [] := by
  obtain ⟨a, xs, rfl⟩ := List.exists_cons_of_ne_nil hne
  rw [atPositions_cons, not_isHeldBack_zero hevery]
  exact List.cons_ne_nil _ _

/-! ## 2.  Entries -/

/-- What a training set holds at one position: a server, its row and its label. -/
abbrev Entry (R : Type) := Int64 × FeatureRow R × R

/-- The entries of a set, as far as its three lists go. -/
def entries (s : TrainingSet R) : List (Entry R) := s.serverIds.zip (s.x.zip s.y)

/-- The set of some entries. -/
def ofEntries (es : List (Entry R)) : TrainingSet R :=
  ⟨es.map fun e => e.1, es.map fun e => e.2.1, es.map fun e => e.2.2⟩

theorem size_ofEntries (es : List (Entry R)) : (ofEntries es).size = es.length := List.length_map _

theorem isAligned_ofEntries (es : List (Entry R)) : (ofEntries es).IsAligned := by
  constructor <;> rw [size_ofEntries] <;> exact List.length_map _

theorem entries_ofEntries (es : List (Entry R)) : (ofEntries es).entries = es := by
  rw [entries, ofEntries, List.zip_map', List.zip_map']
  exact List.map_id es

section

variable {s : TrainingSet R} (h : s.IsAligned)

include h

/-- **An aligned set is the set of its entries.** -/
theorem ofEntries_entries : ofEntries s.entries = s := by
  have hlabels : s.x.length = s.y.length := h.y.symm
  have hrows : s.serverIds.length = (s.x.zip s.y).length := by
    rw [List.length_zip, ← hlabels, min_self]
    exact h.serverIds
  have hservers : s.entries.map (fun e => e.1) = s.serverIds := List.map_fst_zip hrows.le
  have hpairs : s.entries.map (fun e => e.2) = s.x.zip s.y := List.map_snd_zip hrows.ge
  have hx : s.entries.map (fun e => e.2.1) = s.x := by
    rw [← List.map_fst_zip hlabels.le, ← hpairs, List.map_map]
    rfl
  have hy : s.entries.map (fun e => e.2.2) = s.y := by
    rw [← List.map_snd_zip hlabels.ge, ← hpairs, List.map_map]
    rfl
  rw [ofEntries, hservers, hx, hy]

theorem length_entries : s.entries.length = s.size := by
  rw [← size_ofEntries, ofEntries_entries h]

end

/-- **What is taken out of the three lists at some positions** is the set of the entries there. -/
theorem at?_ofEntries (es : List (Entry R)) (p : ℕ → Bool) :
    (ofEntries es).at? ((List.range es.length).filter p) = some (ofEntries (atPositions p es)) := by
  have hpositions : ∀ i ∈ (List.range es.length).filter p, i < es.length :=
    fun i hi => List.mem_range.mp (List.mem_filter.mp hi).1
  rw [at?, ofEntries, mapM_getElem? _ _ hpositions, mapM_getElem? _ _ hpositions,
    mapM_getElem? _ _ hpositions, filterMap_getElem?_range]
  rfl

/-- **A split cuts the list of entries**, into those kept and those held back; where nothing is held
back the entries serve for both. -/
theorem split?_ofEntries {every : ℕ} (hevery : 2 ≤ every) {es : List (Entry R)}
    (hlength : 2 ≤ es.length) :
    (ofEntries es).split? every = some
      ⟨ofEntries (atPositions (fun i => !isHeldBack every i) es),
        if every ≤ es.length then ofEntries (atPositions (isHeldBack every) es)
        else ofEntries (atPositions (fun i => !isHeldBack every i) es)⟩ := by
  have hempty : (ofEntries (atPositions (isHeldBack every) es)).isEmpty = true ↔
      ¬ every ≤ es.length := by
    rw [isEmpty, List.isEmpty_iff_length_eq_zero]
    show (ofEntries _).size = 0 ↔ _
    rw [size_ofEntries, length_heldBack, Nat.div_eq_zero_iff]
    omega
  have hlarge : ¬ ((ofEntries es).size < 2 ∨ every < 2) := by
    rw [size_ofEntries]
    omega
  rw [split?, if_neg hlarge, size_ofEntries]
  dsimp only
  rw [at?_ofEntries, at?_ofEntries]
  simp only [Option.bind_eq_bind, Option.bind_some, hempty, ite_not]

/-! ## 3.  The halves -/

/-- Whether two halves share the entries of a set out among them: every so many entries one is
held back, and all others are learned from. -/
structure Halves.Partition (s : TrainingSet R) (every : ℕ) (halves : Halves R) : Prop where
  train_isAligned : halves.train.IsAligned
  validation_isAligned : halves.validation.IsAligned
  validation : halves.validation.entries = atPositions (fun i => decide (every ∣ i + 1)) s.entries
  train : halves.train.entries = atPositions (fun i => !decide (every ∣ i + 1)) s.entries
  perm : (halves.train.entries ++ halves.validation.entries).Perm s.entries
  size : halves.validation.size = s.size / every
  size_pos : 1 ≤ s.size / every

theorem partition_ofEntries {every : ℕ} (hevery : 2 ≤ every) {es : List (Entry R)}
    (hlength : every ≤ es.length) :
    Halves.Partition (ofEntries es) every
      ⟨ofEntries (atPositions (fun i => !isHeldBack every i) es),
        ofEntries (atPositions (isHeldBack every) es)⟩ where
  train_isAligned := isAligned_ofEntries _
  validation_isAligned := isAligned_ofEntries _
  validation := by simp only [entries_ofEntries, ← isHeldBack_eq]
  train := by simp only [entries_ofEntries, ← isHeldBack_eq]
  perm := by
    simp only [entries_ofEntries]
    exact atPositions_append_perm _ es
  size := by rw [size_ofEntries, size_ofEntries, length_heldBack]
  size_pos := by
    rw [size_ofEntries]
    exact Nat.div_pos hlength (by omega)

section

variable {s : TrainingSet R} (h : s.IsAligned) {every : ℕ}

include h

theorem exists_partition (hevery : 2 ≤ every) (hlength : every ≤ s.size) :
    ∃ halves, s.split? every = some halves ∧ halves.Partition s every := by
  obtain ⟨es, rfl⟩ : ∃ es, ofEntries es = s := ⟨_, ofEntries_entries h⟩
  rw [size_ofEntries] at hlength
  have hsplit := split?_ofEntries hevery (hevery.trans hlength)
  rw [if_pos hlength] at hsplit
  exact ⟨_, hsplit, partition_ofEntries hevery hlength⟩

theorem split?_of_few (hsize : 2 ≤ s.size) (hfew : s.size < every) :
    s.split? every = some ⟨s, s⟩ := by
  obtain ⟨es, rfl⟩ : ∃ es, ofEntries es = s := ⟨_, ofEntries_entries h⟩
  rw [size_ofEntries] at hsize hfew
  have hall : atPositions (fun i => !isHeldBack every i) es = es := by
    refine atPositions_of_all fun i hi => ?_
    rw [isHeldBack_eq, Bool.not_eq_true', decide_eq_false_iff_not]
    exact Nat.not_dvd_of_pos_of_lt (Nat.succ_pos i) (by omega)
  have hsplit := split?_ofEntries (hsize.trans hfew.le) hsize
  rwa [if_neg (by omega), hall] at hsplit

end

theorem split?_of_small {s : TrainingSet R} {every : ℕ} (hsmall : s.size < 2 ∨ every < 2) :
    s.split? every = some ⟨s, s⟩ := if_pos hsmall

/-- Whether both halves are aligned, and hold something. -/
structure Halves.AreReady (halves : Halves R) : Prop where
  train_isAligned : halves.train.IsAligned
  validation_isAligned : halves.validation.IsAligned
  train_size : 1 ≤ halves.train.size
  validation_size : 1 ≤ halves.validation.size

/-- **A set that is not empty has two halves that are not empty.** -/
theorem exists_ready {s : TrainingSet R} (h : s.IsAligned) (hsize : 1 ≤ s.size) (every : ℕ) :
    ∃ halves, s.split? every = some halves ∧ halves.AreReady := by
  have hwhole : Halves.AreReady ⟨s, s⟩ := ⟨h, h, hsize, hsize⟩
  by_cases hsmall : s.size < 2 ∨ every < 2
  · exact ⟨_, split?_of_small hsmall, hwhole⟩
  by_cases hfew : s.size < every
  · exact ⟨_, split?_of_few h (by omega) hfew, hwhole⟩
  have hevery : 2 ≤ every := by omega
  obtain ⟨halves, hsplit, hhalves⟩ := exists_partition h hevery (Nat.le_of_not_lt hfew)
  refine ⟨halves, hsplit, hhalves.train_isAligned, hhalves.validation_isAligned, ?_,
    hhalves.size ▸ hhalves.size_pos⟩
  have hne : s.entries ≠ [] := List.ne_nil_of_length_pos (by rw [length_entries h]; omega)
  rw [← length_entries hhalves.train_isAligned, hhalves.train]
  simp only [← isHeldBack_eq]
  exact List.length_pos_of_ne_nil (kept_ne_nil hevery hne)

end TrainingSet

namespace Training

variable [Scalar R]

/-- **Training on an aligned set that is not empty** has two halves to work with, and fails by
diverging only. -/
theorem exists_train? (config : Config R) {s : TrainingSet R} (h : s.IsAligned)
    (hsize : 1 ≤ s.size) :
    ∃ result, train? config s = some result ∧
      ∀ fault, result = .error fault → ∃ epoch, fault = .diverged epoch := by
  obtain ⟨halves, hsplit, hready⟩ := TrainingSet.exists_ready h hsize config.validationEvery
  have hne : halves.train.x ≠ [] := List.ne_nil_of_length_pos hready.train_size
  have htrain : halves.train.x.length = halves.train.y.length := hready.train_isAligned.y.symm
  have hvalidation : halves.validation.x.length = halves.validation.y.length :=
    hready.validation_isAligned.y.symm
  have hshape : (standardised (Scaler.fit halves.train.x) halves).isWellShaped = true := by
    simp [Regressor.Data.isWellShaped, standardised, hne, htrain, hvalidation]
  refine ⟨trainHalves config halves, by rw [train?, hsplit]; rfl, fun fault hfault => ?_⟩
  exact trainHalves_error hshape hfault

end Training

namespace TrainingSet

variable [Scalar R]

/-- **A split neither loses nor repeats nor mixes up examples.**  An aligned set can be split,
whatever the numbers are.

* With fewer than two entries, or where every first entry would be held back, both halves are the
  set.
* With as many entries as that or more, every so many entries one is held back and the others are
  learned from, all in their order: each entry is in one of the halves, and one at least is held
  back.
* With fewer entries, both halves are the set.
* If there are entries at all there are some in both halves, so that training has data to learn from
  and data to validate on, and can fail in no other way than by diverging. -/
theorem split?_partitions {s : TrainingSet R} (h : s.IsAligned) (every : ℕ) :
    ∃ halves, s.split? every = some halves ∧
      (s.size < 2 ∨ every < 2 → halves = ⟨s, s⟩) ∧
      (2 ≤ every → every ≤ s.size → halves.Partition s every) ∧
      (2 ≤ s.size → s.size < every → halves = ⟨s, s⟩) ∧
      (1 ≤ s.size → halves.AreReady ∧
        ∀ config : Training.Config R, ∃ result,
          Training.train? config s = some result ∧
            ∀ fault, result = .error fault → ∃ epoch, fault = .diverged epoch) := by
  obtain ⟨halves, hsplit⟩ := exists_split? h every
  refine ⟨halves, hsplit, fun hsmall => ?_, fun hevery hlength => ?_, fun hsize hfew => ?_,
    fun hsize => ⟨?_, fun config => Training.exists_train? config h hsize⟩⟩
  · exact Option.some.inj (hsplit.symm.trans (split?_of_small hsmall))
  · obtain ⟨halves', hsplit', hhalves⟩ := exists_partition h hevery hlength
    obtain rfl : halves' = halves := Option.some.inj (hsplit'.symm.trans hsplit)
    exact hhalves
  · exact Option.some.inj (hsplit.symm.trans (split?_of_few h hsize hfew))
  · obtain ⟨halves', hsplit', hready⟩ := exists_ready h hsize every
    obtain rfl : halves' = halves := Option.some.inj (hsplit'.symm.trans hsplit)
    exact hready

/-- Seven servers, with rows and labels that tell them apart. -/
def sevenServers : TrainingSet Float where
  serverIds := [1, 2, 3, 4, 5, 6, 7]
  x := [.replicate 6 1, .replicate 6 2, .replicate 6 3, .replicate 6 4, .replicate 6 5,
    .replicate 6 6, .replicate 6 7]
  y := [10, 20, 30, 40, 50, 60, 70]

/-- Every third one is held back, with its own row and label; all serve for both if it is every
eighth. -/
theorem split?_partitions_sevenServers :
    sevenServers.IsAligned ∧
      (∃ halves, sevenServers.split? 3 = some halves ∧
        halves.validation.entries = [(3, .replicate 6 3, 30), (6, .replicate 6 6, 60)] ∧
        halves.train.serverIds = [1, 2, 4, 5, 7]) ∧
      sevenServers.split? 8 = some ⟨sevenServers, sevenServers⟩ := by
  have haligned : sevenServers.IsAligned := ⟨rfl, rfl⟩
  obtain ⟨halves, hsplit, -, hhalves, -, -⟩ := split?_partitions haligned 3
  obtain ⟨whole, hwhole, -, -, hfew, -⟩ := split?_partitions haligned 8
  have hvalidation := (hhalves (by decide) (by decide)).validation
  have hservers : (sevenServers.split? 3).map (·.train.serverIds) = some [1, 2, 4, 5, 7] := rfl
  rw [hsplit] at hservers
  refine ⟨haligned, ⟨halves, hsplit, hvalidation.trans rfl, Option.some.inj hservers⟩, ?_⟩
  rw [hwhole, hfew (by decide) (by decide)]

end TrainingSet
end FleetScore
