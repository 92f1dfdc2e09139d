import FleetScore.Feature.Parity
import FleetScore.Proofs.Order.Groups

/-!
# What parity decides

Two lists of names are in parity if neither repeats a name and both have the same names
(`InParity`).  The check answers exactly that, and when it refuses it tells the whole difference:
for each side, the names of that side that the other lacks, together with those that it repeats
itself (`Difference`).  A name may be told for both reasons, and may be told on both sides, but a
difference that tells nothing is never answered.

The check looks at a list through two questions only, which names it has and which it has more than
once.  So the order of a list does not matter, and neither does which of the two lists is called
that of training, but for the side on which a name is told (`verify_decides`).
-/

namespace FleetScore

/-- The names of feature lists are in a strict order. -/
instance isStrictTotalOrder_string : IsStrictTotalOrder String (· < ·) where
  irrefl _ := String.lt_irrefl _
  trans _ _ _ := String.lt_trans
  trichotomous _ _ hab hba := String.le_antisymm hba hab

/-! ## 1.  Repeated names -/

section

variable {κ : Type} [DecidableEq κ] [LT κ] [DecidableLT κ]

@[simp] theorem mem_repeated {x : κ} {xs : List κ} : x ∈ repeated xs ↔ 2 ≤ xs.count x := by
  rw [repeated, mem_ascending, List.mem_filter, decide_eq_true_eq, ← List.count_pos_iff]
  omega

/-- **No name is repeated exactly if all are different.** -/
theorem repeated_eq_nil_iff {xs : List κ} : repeated xs = [] ↔ xs.Nodup := by
  rw [List.eq_nil_iff_forall_not_mem, List.nodup_iff_count_le_one]
  refine forall_congr' fun x => ?_
  rw [mem_repeated]
  omega

end

/-- A difference seen from the other side. -/
def NameDifference.swap (d : NameDifference) : NameDifference := ⟨d.extra, d.missing⟩

namespace Parity

/-! ## 2.  What the check looks at -/

variable {training manifest training' manifest' : List String}

@[simp] theorem mem_lacking {n : String} {names others : List String} :
    n ∈ lacking names others ↔ n ∈ names ∧ n ∉ others := by
  simp [lacking]

theorem lacking_congr {names others names' others' : List String} (h : ∀ n, n ∈ names ↔ n ∈ names')
    (h' : ∀ n, n ∈ others ↔ n ∈ others') : lacking names others = lacking names' others' := by
  refine ascending_congr ?_
  intro n
  simp [h n, h' n]

theorem mem_missing {n : String} :
    n ∈ (difference training manifest).missing ↔
      (n ∈ training ∧ n ∉ manifest) ∨ 2 ≤ training.count n := by
  simp [difference]

theorem mem_extra {n : String} :
    n ∈ (difference training manifest).extra ↔
      (n ∈ manifest ∧ n ∉ training) ∨ 2 ≤ manifest.count n :=
  mem_missing

/-- **A difference does not depend on the order of the lists.** -/
theorem difference_perm (h : training.Perm training') (h' : manifest.Perm manifest') :
    difference training manifest = difference training' manifest' := by
  have hside : ∀ {names others names' others' : List String}, names.Perm names' →
      others.Perm others' → ascending (lacking names others ++ repeated names) =
        ascending (lacking names' others' ++ repeated names') := by
    intro names others names' others' hnames hothers
    refine ascending_congr ?_
    intro n
    simp only [List.mem_append, mem_lacking, mem_repeated, hnames.mem_iff, hothers.mem_iff,
      hnames.count_eq]
  rw [difference, difference, hside h h', hside h' h]

theorem difference_of_nodup (h : training.Nodup) (h' : manifest.Nodup) :
    difference training manifest = ⟨lacking training manifest, lacking manifest training⟩ := by
  have hside : ∀ names others : List String,
      ascending (lacking names others) = lacking names others := by
    intro names others
    exact ascending_eq_of_pairwise (pairwise_ascending _) fun _ => Iff.rfl
  rw [difference, repeated_eq_nil_iff.mpr h, repeated_eq_nil_iff.mpr h', List.append_nil,
    List.append_nil, hside, hside]

/-! ## 3.  What the check decides -/

/-- Whether two lists of names are in parity: they have the same names, and neither repeats one. -/
structure InParity (training manifest : List String) : Prop where
  training_nodup : training.Nodup
  manifest_nodup : manifest.Nodup
  mem_iff : ∀ n, n ∈ training ↔ n ∈ manifest

theorem InParity.symm (h : InParity training manifest) : InParity manifest training :=
  ⟨h.manifest_nodup, h.training_nodup, fun n => (h.mem_iff n).symm⟩

theorem inParity_iff_perm (h : training.Nodup) :
    InParity training manifest ↔ manifest.Perm training := by
  constructor
  · intro hparity
    exact (List.perm_ext_iff_of_nodup hparity.manifest_nodup h).mpr fun n =>
      (hparity.mem_iff n).symm
  · intro hperm
    exact ⟨h, hperm.nodup_iff.mpr h, fun n => hperm.mem_iff.symm⟩

/-- Whether a difference is the whole difference of two lists, in ascending order and each name
once: missing are the names of training that the other list lacks, and those that training
repeats, and beyond training are the names of the other list that training lacks, and those that
it repeats. -/
structure Tells (training manifest : List String) (d : NameDifference) : Prop where
  missing_pairwise : d.missing.Pairwise (· < ·)
  extra_pairwise : d.extra.Pairwise (· < ·)
  mem_missing : ∀ n, n ∈ d.missing ↔ (n ∈ training ∧ n ∉ manifest) ∨ 2 ≤ training.count n
  mem_extra : ∀ n, n ∈ d.extra ↔ (n ∈ manifest ∧ n ∉ training) ∨ 2 ≤ manifest.count n

/-- **The difference tells all of it.** -/
theorem tells_difference (training manifest : List String) :
    Tells training manifest (difference training manifest) where
  missing_pairwise := pairwise_ascending _
  extra_pairwise := pairwise_ascending _
  mem_missing _ := Parity.mem_missing
  mem_extra _ := Parity.mem_extra

/-- **A difference tells nothing exactly if the lists are in parity.** -/
theorem Tells.eq_nil_iff {d : NameDifference} (h : Tells training manifest d) :
    d.missing = [] ∧ d.extra = [] ↔ InParity training manifest := by
  have hnodup : ∀ names : List String, (∀ n, ¬ 2 ≤ names.count n) ↔ names.Nodup := by
    intro names
    rw [List.nodup_iff_count_le_one]
    exact forall_congr' fun n => by omega
  rw [List.eq_nil_iff_forall_not_mem, List.eq_nil_iff_forall_not_mem]
  simp only [h.mem_missing, h.mem_extra, not_or, forall_and, hnodup]
  constructor
  · rintro ⟨⟨hmissing, htraining⟩, hextra, hmanifest⟩
    refine ⟨htraining, hmanifest, ?_⟩
    intro n
    constructor
    · intro hn
      by_contra hne
      exact hmissing n ⟨hn, hne⟩
    · intro hn
      by_contra hne
      exact hextra n ⟨hn, hne⟩
  · intro hparity
    refine ⟨⟨?_, hparity.training_nodup⟩, ?_, hparity.manifest_nodup⟩
    · rintro n ⟨hn, hne⟩
      exact hne ((hparity.mem_iff n).mp hn)
    · rintro n ⟨hn, hne⟩
      exact hne ((hparity.mem_iff n).mpr hn)

theorem isNone_iff {d : NameDifference} : isNone d = true ↔ d.missing = [] ∧ d.extra = [] := by
  simp [isNone]

/-- **The check lets two lists pass exactly if they are in parity.** -/
theorem verify_eq_ok_iff : verify training manifest = .ok () ↔ InParity training manifest := by
  rw [← (tells_difference training manifest).eq_nil_iff, ← isNone_iff, verify]
  split
  · rename_i hnone
    exact iff_of_true rfl hnone
  · rename_i hsome
    exact iff_of_false (fun h => by cases h) hsome

/-- **Lists that are not in parity are refused with their difference.** -/
theorem verify_eq_error (h : ¬ InParity training manifest) :
    verify training manifest = .error (difference training manifest) := by
  rw [← (tells_difference training manifest).eq_nil_iff, ← isNone_iff] at h
  rw [verify]
  exact if_neg h

/-- **The check sees the same from both sides.** -/
theorem verify_swap (training manifest : List String) :
    verify manifest training = (verify training manifest).mapError NameDifference.swap := by
  by_cases h : InParity training manifest
  · rw [verify_eq_ok_iff.mpr h, verify_eq_ok_iff.mpr h.symm]
    rfl
  · rw [verify_eq_error h, verify_eq_error fun h' => h h'.symm]
    rfl

/-- **The check does not depend on the order of the lists.** -/
theorem verify_perm (h : training.Perm training') (h' : manifest.Perm manifest') :
    verify training manifest = verify training' manifest' := by
  rw [verify, verify, difference_perm h h']

/-- **The check decides parity and tells the whole difference.**  It does not depend on the order
of the lists, and sees the same from both sides. -/
theorem verify_decides (training manifest : List String) :
    (verify training manifest = .ok () ↔ InParity training manifest) ∧
      (¬ InParity training manifest → ∃ d, verify training manifest = .error d ∧
        Tells training manifest d ∧ ¬ (d.missing = [] ∧ d.extra = [])) ∧
      (∀ training' manifest', training'.Perm training → manifest'.Perm manifest →
        verify training' manifest' = verify training manifest) ∧
      verify manifest training = (verify training manifest).mapError NameDifference.swap := by
  have htells := tells_difference training manifest
  refine ⟨verify_eq_ok_iff, ?_, ?_, verify_swap training manifest⟩
  · intro hparity
    exact ⟨_, verify_eq_error hparity, htells, fun hnil => hparity (htells.eq_nil_iff.mp hnil)⟩
  · intro training' manifest' h h'
    exact verify_perm h h'

/-- A name can be missing and repeated at once.  It is told once, and in whatever order the lists
are given. -/
theorem verify_decides_repeated :
    ¬ InParity ["cpu", "cpu", "memory"] ["load", "memory", "load", "load"] ∧
      (∃ d, verify ["cpu", "cpu", "memory"] ["load", "memory", "load", "load"] = .error d ∧
        Tells ["cpu", "cpu", "memory"] ["load", "memory", "load", "load"] d ∧
        ¬ (d.missing = [] ∧ d.extra = [])) ∧
      verify ["memory", "cpu", "cpu"] ["load", "load", "load", "memory"] =
        verify ["cpu", "cpu", "memory"] ["load", "memory", "load", "load"] := by
  have hparity : ¬ InParity ["cpu", "cpu", "memory"] ["load", "memory", "load", "load"] := by
    intro h
    exact absurd h.training_nodup (by decide)
  obtain ⟨-, htells, hperm, -⟩ :=
    verify_decides ["cpu", "cpu", "memory"] ["load", "memory", "load", "load"]
  exact ⟨hparity, htells hparity, hperm _ _ (by decide) (by decide)⟩

end Parity
end FleetScore
