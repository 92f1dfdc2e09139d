import FleetScore.Proofs.Artifact.ParityChecks
import FleetScore.Proofs.Feature.VectorRanges
import FleetScore.Proofs.Numeric.WholeNumbers

/-!
# A vector by name and a vector by position

Training reads a vector as a row of six doubles, and serving puts a vector together from six doubles
under names.  Two of the six are integers of the store: on the way to a name they are rounded to a
double, and on the way back to the nearest integer of their word.  A large integer comes back as
another one.

The model does not notice (`ofNamed?_byName`).  What comes back is read as the same row, bit for
bit, because the integer that is nearest to a rounded integer is rounded to the same double, even at
the ends of the words.  And it is the same vector as long as both integers are at most `2 ^ 53` from
zero.
-/

namespace FleetScore

open Binary64

theorem lookup_eq_some_of_mem {β : Type} {entries : List (String × β)} {key : String} {value : β}
    (hnodup : (entries.map Prod.fst).Nodup) (hmem : (key, value) ∈ entries) :
    entries.lookup key = some value := by
  obtain ⟨before, after, rfl⟩ := List.append_of_mem hmem
  refine List.lookup_eq_some_iff.2 ⟨before, after, rfl, fun entry hentry => ?_⟩
  rw [List.map_append, List.map_cons] at hnodup
  have hne := List.disjoint_of_nodup_append hnodup (List.mem_map_of_mem hentry)
  refine bne_iff_ne.2 fun heq => hne ?_
  rw [heq]
  exact List.mem_cons_self

namespace FeatureVector

variable {v w : FeatureVector Float} {values : List (String × Float)}

/-! ## 1.  Values under names -/

/-- The values of a vector under the names of the features. -/
def byName (v : FeatureVector Float) : List (String × Float) :=
  FeatureName.all.map fun f => (f.text, v.get f)

theorem map_fst_byName (v : FeatureVector Float) : v.byName.map Prod.fst = FeatureName.names := by
  rw [byName, List.map_map]
  rfl

theorem named_of_perm (hvalues : values.Perm v.byName) (f : FeatureName) :
    named values f = v.get f := by
  have hkeys : (values.map Prod.fst).Nodup := by
    rw [(hvalues.map Prod.fst).nodup_iff, map_fst_byName]
    exact FeatureName.names_nodup
  have hmem : (f.text, v.get f) ∈ values :=
    hvalues.mem_iff.2 (List.mem_map_of_mem (FeatureName.mem_all f))
  rw [named, lookup_eq_some_of_mem hkeys hmem]
  rfl

/-- **If the names are the canonical ones, there is a vector.** -/
theorem ofNamed?_of_perm (serverId : Int64)
    (hnames : (values.map Prod.fst).Perm FeatureName.names) :
    ofNamed? serverId values = .ok {
      serverId := serverId
      cpuUsage := named values .cpuUsage
      memoryUsage := named values .memoryUsage
      activeConns := nearestUInt64 (Scalar.larger (named values .activeConns) 0.0)
      errorRate := named values .errorRate
      responseP95 := named values .responseP95
      capacity := nearestInt64 (named values .capacity) } := by
  have hnodup := hnames.nodup_iff.2 FeatureName.names_nodup
  have hparity := map_ofNamed? serverId hnodup fun _ => Iff.rfl
  rw [Parity.verify_eq_ok_iff.2 (FeatureName.inParity_names_iff.2 hnames)] at hparity
  rw [ofNamed?] at hparity ⊢
  split
  · rfl
  · rename_i hdifference
    rw [if_neg hdifference] at hparity
    cases hparity

/-! ## 2.  Integers under names -/

/-- The vector that comes back: the integers are the nearest ones to their doubles. -/
def roundTrip (v : FeatureVector Float) : FeatureVector Float :=
  { v with
    activeConns := nearestUInt64 (Scalar.ofNat v.activeConns.toNat)
    capacity := nearestInt64 (Scalar.ofInt v.capacity.toInt) }

/-- **Serving puts together what comes back.** -/
theorem ofNamed?_eq_roundTrip (hvalues : values.Perm v.byName) :
    ofNamed? v.serverId values = .ok v.roundTrip := by
  have hnames : (values.map Prod.fst).Perm FeatureName.names :=
    map_fst_byName v ▸ hvalues.map Prod.fst
  have hcount : Scalar.larger (Scalar.ofNat v.activeConns.toNat : Float) 0.0 =
      Scalar.ofNat v.activeConns.toNat :=
    larger_zero (hasNoSign_ofNat _) (isNonnegative_ofNat _).isNumber
  rw [ofNamed?_of_perm v.serverId hnames]
  simp only [named_of_perm hvalues, get, hcount]
  rfl

/-- **What comes back has the same features.** -/
theorem get_roundTrip (v : FeatureVector Float) (f : FeatureName) : v.roundTrip.get f = v.get f := by
  cases f with
  | activeConns => exact ofNat_nearestUInt64 v.activeConns
  | capacity => exact ofInt_nearestInt64 v.capacity
  | _ => rfl

theorem toRow_roundTrip (v : FeatureVector Float) : v.roundTrip.toRow = v.toRow := by
  have hget : v.roundTrip.get = v.get := funext (get_roundTrip v)
  rw [toRow, hget, toRow]

/-- What comes back is the same vector as long as its integers are doubles. -/
theorem roundTrip_eq (hconns : v.activeConns.toNat ≤ 2 ^ 53)
    (hcapacity : |v.capacity.toInt| ≤ 2 ^ 53) : v.roundTrip = v := by
  rw [roundTrip, nearestUInt64_ofNat hconns, nearestInt64_ofInt hcapacity]

/-! ## 3.  Both ways of reading -/

/-- **Serving by name sees the doubles that training sees by position.**  If the values of a vector
are given under the names of the features, in whatever order, a vector is put together whose row is
that of the vector bit for bit; and it is the same vector if its connections and the distance of its
capacity from zero are at most `2 ^ 53`. -/
theorem ofNamed?_byName (hvalues : values.Perm v.byName) :
    ∃ w, ofNamed? v.serverId values = .ok w ∧ w.serverId = v.serverId ∧
      w.toRow.map Float.toBits = v.toRow.map Float.toBits ∧
      (v.activeConns.toNat ≤ 2 ^ 53 → |v.capacity.toInt| ≤ 2 ^ 53 → w = v) := by
  refine ⟨v.roundTrip, ofNamed?_eq_roundTrip hvalues, rfl, ?_, roundTrip_eq⟩
  rw [toRow_roundTrip]

/-! ### The ends of the words -/

/-- A server with as many connections as a word holds, and the capacity that a word ends at. -/
def brimfulVector : FeatureVector Float where
  serverId := 7
  cpuUsage := 60.0
  memoryUsage := 40.0
  activeConns := 18446744073709551615
  errorRate := 0.25
  responseP95 := 290.0
  capacity := 9223372036854775807

/-- The same server, with integers at the last place where all of them are doubles. -/
def roundVector : FeatureVector Float :=
  { brimfulVector with activeConns := 9007199254740992, capacity := -9007199254740992 }

/-- Both integers are rounded up out of their words, and the row is the same; smaller integers come
back. -/
theorem ofNamed?_byName_brimfulVector :
    brimfulVector.byName.reverse.Perm brimfulVector.byName ∧
      (∃ w, ofNamed? 7 brimfulVector.byName.reverse = .ok w ∧
        w.toRow.map Float.toBits = brimfulVector.toRow.map Float.toBits) ∧
      roundVector.byName.Perm roundVector.byName ∧
      ofNamed? 7 roundVector.byName = .ok roundVector := by
  have hreversed := brimfulVector.byName.reverse_perm
  obtain ⟨w, hw, -, hrow, -⟩ := ofNamed?_byName hreversed
  obtain ⟨w', hw', -, -, hsame⟩ := ofNamed?_byName (List.Perm.refl roundVector.byName)
  obtain rfl : w' = roundVector := hsame (by decide) (by decide)
  exact ⟨hreversed, ⟨w, hw, hrow⟩, List.Perm.refl _, hw'⟩

end FeatureVector
end FleetScore
