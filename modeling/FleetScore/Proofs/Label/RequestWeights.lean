import Mathlib
import FleetScore.Proofs.Feature.UnmatchedRows
import FleetScore.Proofs.Numeric.Exact

/-!
# A request weighs the same, however many snapshots it matched

A request that matched three snapshots has three rows.  Connections and failures are counted by
rows, so there it counts three times.  In the response time and in the label it must not: it is one
request, and the more snapshots a server sends the more of them each of its requests would get.

`requests_weigh_alike` says this in two ways.

* Rows of a request are repeated, each of them in place.  The response times are those of first
  rows, and first rows stay first, so nothing changes, whatever the scalars are.  The load of a
  request is a mean over its rows, and a mean of repeated numbers is the same number where numbers
  are not rounded.
* The label is written down without rows.  It is the mean over the requests that have a load
  (`scoredIds`), each taken once, of the score of its first row and its mean load (`scoreOfId`).

Rounding is the one thing that keeps the first from holding of labels of doubles: a sum of three
copies, divided by three, need not be the double again.
-/

namespace FleetScore

open Aggregation

/-! ## 1.  Lists with members repeated -/

section

variable {α β κ : Type}

/-- A list with the members that pass a test repeated, in place. -/
def repeatEach (k : ℕ) (p : α → Bool) (xs : List α) : List α :=
  xs.flatMap fun x => if p x then List.replicate k x else [x]

theorem repeatEach_cons (k : ℕ) (p : α → Bool) (x : α) (xs : List α) :
    repeatEach k p (x :: xs) = (if p x then List.replicate k x else [x]) ++ repeatEach k p xs :=
  List.flatMap_cons

theorem filter_repeatEach (k : ℕ) (p q : α → Bool) (xs : List α) :
    (repeatEach k p xs).filter q = repeatEach k p (xs.filter q) := by
  induction xs with
  | nil => rfl
  | cons x xs ih =>
    have hcopies : (if p x then List.replicate k x else [x]).filter q =
        if q x then (if p x then List.replicate k x else [x]) else [] := by
      split <;> cases hq : q x <;> simp [hq]
    rw [repeatEach_cons, List.filter_append, ih, hcopies, List.filter_cons]
    split
    · rw [repeatEach_cons]
    · rw [List.nil_append]

theorem repeatEach_of_none (k : ℕ) {p : α → Bool} {xs : List α} (h : ∀ x ∈ xs, p x = false) :
    repeatEach k p xs = xs := by
  rw [repeatEach, List.flatMap_congr (g := fun x => [x]) fun x hx => by simp [h x hx],
    List.flatMap_singleton']

theorem filterMap_repeatEach_of_all (k : ℕ) {p : α → Bool} (f : α → Option β) {xs : List α}
    (h : ∀ x ∈ xs, p x = true) :
    (repeatEach k p xs).filterMap f = (xs.filterMap f).flatMap fun y => List.replicate k y := by
  induction xs with
  | nil => rfl
  | cons x xs ih =>
    obtain ⟨hx, hxs⟩ := List.forall_mem_cons.mp h
    rw [repeatEach_cons, if_pos hx, List.filterMap_append, ih hxs]
    cases hf : f x <;> simp [hf]

variable {k : ℕ} (hk : 1 ≤ k)

include hk

theorem sublist_repeatEach (p : α → Bool) (xs : List α) : xs.Sublist (repeatEach k p xs) := by
  induction xs with
  | nil => exact List.Sublist.refl []
  | cons x xs ih =>
    have hcopy : [x].Sublist (if p x then List.replicate k x else [x]) := by
      split
      · exact List.singleton_sublist.mpr (List.mem_replicate.mpr ⟨by omega, rfl⟩)
      · exact List.Sublist.refl _
    rw [repeatEach_cons]
    exact hcopy.append ih

theorem mem_repeatEach {p : α → Bool} {xs : List α} {x : α} : x ∈ repeatEach k p xs ↔ x ∈ xs := by
  refine ⟨fun hx => ?_, fun hx => (sublist_repeatEach hk p xs).subset hx⟩
  obtain ⟨y, hy, hx⟩ := List.mem_flatMap.mp hx
  split at hx
  · rwa [List.eq_of_mem_replicate hx]
  · rwa [List.mem_singleton.mp hx]

/-- **The first member stays the first.** -/
theorem head?_repeatEach (p : α → Bool) (xs : List α) : (repeatEach k p xs).head? = xs.head? := by
  obtain ⟨k, rfl⟩ : ∃ n, k = n + 1 := ⟨k - 1, by omega⟩
  cases xs with
  | nil => rfl
  | cons x xs =>
    rw [repeatEach_cons]
    split <;> rfl

/-- **The groups have their members repeated**, and are groups of the same keys. -/
theorem grouped_repeatEach [DecidableEq κ] [LT κ] [DecidableLT κ] [IsStrictTotalOrder κ (· < ·)]
    (key : α → κ) (p : α → Bool) (xs : List α) :
    grouped key (repeatEach k p xs) =
      (grouped key xs).map fun group => (group.1, repeatEach k p group.2) := by
  have hkeys : ascending ((repeatEach k p xs).map key) = ascending (xs.map key) := by
    refine ascending_congr fun a => ?_
    simp only [List.mem_map, mem_repeatEach hk]
  rw [grouped, grouped, hkeys, List.map_map]
  refine List.map_congr_left fun a _ => ?_
  rw [filter_repeatEach]
  rfl

end

/-! ## 2.  Repeating the rows of a request -/

section

variable {R : Type}

/-- Rows, with those of one request repeated, each in place. -/
def repeatRequest (k : ℕ) (requestId : Int64) (rows : List (Row R)) : List (Row R) :=
  repeatEach k (fun row => decide (row.requestId = requestId)) rows

variable {k : ℕ} (hk : 1 ≤ k) (requestId : Int64) (rows : List (Row R))

include hk

theorem responseTimes_repeatRequest :
    responseTimes (repeatRequest k requestId rows) = responseTimes rows := by
  rw [responseTimes, responseTimes, repeatRequest, filter_repeatEach, grouped_repeatEach hk,
    List.filterMap_map]
  refine List.filterMap_congr fun group _ => ?_
  rw [Function.comp_apply, head?_repeatEach hk]

/-- Repeated rows are more connections, if anything. -/
theorem totalConnections_le_repeatRequest :
    totalConnections rows ≤ totalConnections (repeatRequest k requestId rows) := by
  rw [totalConnections_eq_sum, totalConnections_eq_sum]
  exact ((sublist_repeatEach hk _ rows).map _).sum_le_sum fun _ _ => Nat.zero_le _

end

section

variable {K : Type} [Field K] [LinearOrder K] [IsStrictOrderedRing K] [FloorSemiring K] [HasRoot K]
variable {k : ℕ} (hk : 1 ≤ k) (requestId : Int64) (rows : List (Row (Exact K)))

include hk

/-- **The scores of requests are the same.**  The rows of a request are repeated all together or
not at all. -/
theorem requestScores_repeatRequest :
    Label.requestScores (repeatRequest k requestId rows) = Label.requestScores rows := by
  rw [Label.requestScores, Label.requestScores, repeatRequest, grouped_repeatEach hk,
    List.filterMap_map]
  refine List.filterMap_congr fun group hgroup => ?_
  obtain ⟨id, -, rfl⟩ := List.mem_map.mp hgroup
  have hkey : ∀ row ∈ rows.filter fun row => decide (row.requestId = id), row.requestId = id :=
    fun row hrow => of_decide_eq_true (List.mem_filter.mp hrow).2
  rw [Function.comp_apply]
  by_cases hid : id = requestId
  · subst hid
    rw [Label.scoreRows?, Label.scoreRows?, head?_repeatEach hk,
      filterMap_repeatEach_of_all k Row.cpuUsage fun row hrow => decide_eq_true (hkey row hrow),
      Exact.mean_flatMap_replicate (by omega)]
  · rw [repeatEach_of_none k fun row hrow =>
      decide_eq_false fun h => hid ((hkey row hrow).symm.trans h)]

theorem scoreGroup_repeatRequest :
    Label.scoreGroup (repeatRequest k requestId rows) = Label.scoreGroup rows := by
  rw [Label.scoreGroup, Label.scoreGroup, requestScores_repeatRequest hk]

end

/-! ## 3.  The label without rows -/

section

variable {R : Type}

/-- The requests that a load is known for. -/
def scoredIds (rows : List (Row R)) : Finset Int64 :=
  ((rows.filter fun row => row.cpuUsage.isSome).map Row.requestId).toFinset

/-- The loads of a request. -/
def loadsOf (rows : List (Row R)) (requestId : Int64) : List R :=
  (rows.filter fun row => decide (row.requestId = requestId)).filterMap Row.cpuUsage

theorem loadsOf_ne_nil_iff {rows : List (Row R)} {requestId : Int64} :
    loadsOf rows requestId ≠ [] ↔ requestId ∈ scoredIds rows := by
  rw [scoredIds, List.mem_toFinset, List.mem_map, loadsOf, ne_eq, List.filterMap_eq_nil_iff]
  push Not
  constructor
  · rintro ⟨row, hrow, hload⟩
    obtain ⟨hrow, hid⟩ := List.mem_filter.mp hrow
    exact ⟨row, List.mem_filter.mpr ⟨hrow, Option.isSome_iff_ne_none.mpr hload⟩,
      of_decide_eq_true hid⟩
  · rintro ⟨row, hrow, hid⟩
    obtain ⟨hrow, hload⟩ := List.mem_filter.mp hrow
    exact ⟨row, List.mem_filter.mpr ⟨hrow, decide_eq_true hid⟩, Option.isSome_iff_ne_none.mp hload⟩

end

variable {K : Type} [Field K] [LinearOrder K] [FloorSemiring K] [HasRoot K]

/-- The score of a request: seven tenths of the response time of its first row, two tenths of the
mean of its loads, and a tenth if its first row failed. -/
def scoreOfId (rows : List (Row (Exact K))) (requestId : Int64) : Exact K :=
  match rows.find? fun row => decide (row.requestId = requestId) with
  | none => 0
  | some first =>
      7 / 10 * first.responseTime
        + 2 / 10 * ((loadsOf rows requestId).sum / (loadsOf rows requestId).length)
        + 1 / 10 * if first.status = .failure then 1 else 0

/-- The mean of the scores of requests, each request taken once; zero if none has a score. -/
def meanScore (rows : List (Row (Exact K))) : Exact K :=
  if scoredIds rows = ∅ then 0
  else (∑ id ∈ scoredIds rows, scoreOfId rows id) / (scoredIds rows).card

theorem scoreRows?_filter (rows : List (Row (Exact K))) (requestId : Int64) :
    Label.scoreRows? (rows.filter fun row => decide (row.requestId = requestId)) =
      if requestId ∈ scoredIds rows then some (scoreOfId rows requestId) else none := by
  rw [Label.scoreRows?, List.head?_filter, scoreOfId, ← loadsOf, Exact.mean_eq]
  by_cases hscored : requestId ∈ scoredIds rows
  · have hloads := loadsOf_ne_nil_iff.mpr hscored
    rw [if_pos hscored, if_neg hloads]
    cases hfirst : rows.find? fun row => decide (row.requestId = requestId) with
    | none =>
      refine absurd ?_ hloads
      have hnone : (rows.filter fun row => decide (row.requestId = requestId)) = [] := by
        rw [← List.head?_eq_none_iff, List.head?_filter, hfirst]
      rw [loadsOf, hnone, List.filterMap_nil]
    | some first =>
      have hfailed : (if first.status.failed then 1.0 else 0.0 : Exact K) =
          if first.status = .failure then 1 else 0 := by
        cases first.status with
        | success => rw [if_neg (by decide), if_neg (by decide)]; norm_num
        | failure => rw [if_pos (by decide), if_pos rfl]; norm_num
      show some (0.7 * first.responseTime + 0.2 * _ +
        0.1 * if first.status.failed then 1.0 else 0.0 : Exact K) = some _
      rw [hfailed]
      norm_num
  · rw [if_neg hscored, if_pos (not_ne_iff.mp (mt loadsOf_ne_nil_iff.mp hscored))]
    cases rows.find? fun row => decide (row.requestId = requestId) <;> rfl

/-- **The label is the mean of the scores of requests.** -/
theorem scoreGroup_eq_meanScore (rows : List (Row (Exact K))) :
    Label.scoreGroup rows = meanScore rows := by
  -- The requests with a load, in the order in which they are scored.
  let ids := (ascending (rows.map Row.requestId)).filter fun id => decide (id ∈ scoredIds rows)
  have hnodup : ids.Nodup := (nodup_ascending _).filter _
  have hids : ids.toFinset = scoredIds rows := by
    ext id
    rw [List.mem_toFinset, List.mem_filter, mem_ascending, decide_eq_true_eq]
    refine ⟨And.right, fun hscored => ⟨?_, hscored⟩⟩
    rw [scoredIds, List.mem_toFinset] at hscored
    exact (List.filter_sublist.map _).subset hscored
  have hscores : Label.requestScores rows = ids.map (scoreOfId rows) := by
    have hmap : ids.map (scoreOfId rows) = ids.filterMap fun id => some (scoreOfId rows id) :=
      (congrFun List.filterMap_eq_map ids).symm
    rw [Label.requestScores, grouped, List.filterMap_map, hmap, List.filterMap_filter]
    refine List.filterMap_congr fun id _ => ?_
    rw [Function.comp_apply, scoreRows?_filter]
    by_cases hscored : id ∈ scoredIds rows <;> simp [hscored]
  have hsum : (ids.map (scoreOfId rows)).sum = ∑ id ∈ scoredIds rows, scoreOfId rows id := by
    rw [← hids, List.sum_toFinset _ hnodup]
  have hcard : ids.length = (scoredIds rows).card := by
    rw [← hids, List.toFinset_card_of_nodup hnodup]
  have hnil : ids.map (scoreOfId rows) = [] ↔ scoredIds rows = ∅ := by
    rw [List.map_eq_nil_iff, ← hids, List.toFinset_eq_empty_iff]
  rw [Label.scoreGroup, hscores, Exact.mean_eq, hsum, List.length_map, hcard, meanScore]
  by_cases hempty : scoredIds rows = ∅
  · rw [if_pos hempty, if_pos (hnil.mpr hempty), Option.getD_none]
    norm_num
  · rw [if_neg hempty, if_neg (mt hnil.mp hempty), Option.getD_some]

/-! ## 4.  Both -/

/-- **A request weighs the same in the response time and in the label, however many snapshots it
matched.**  Rows of one server are given, and the rows of a request are repeated.  The response
time is the same scalar, also in the vector if there still is one.  In exact arithmetic the label is
the same, too, and it is the mean over the requests that a load is known for, each taken once. -/
theorem requests_weigh_alike [IsStrictOrderedRing K] {k : ℕ} (hk : 1 ≤ k)
    (requestId server : Int64) :
    (∀ rows : List (Row Float),
      responseP95 (repeatRequest k requestId rows) = responseP95 rows ∧
        ∀ v', vector? server (repeatRequest k requestId rows) = some v' →
          ∃ v, vector? server rows = some v ∧ v'.vector.responseP95 = v.vector.responseP95) ∧
      ∀ rows : List (Row (Exact K)), rows ≠ [] → (∀ row ∈ rows, row.serverId = server) →
        Label.scoreAll (repeatRequest k requestId rows) = Label.scoreAll rows ∧
          Label.scoreAll rows = [⟨server, meanScore rows⟩] := by
  refine ⟨fun rows => ?_, fun rows hne hserver => ?_⟩
  · have htime : (responseP95 (repeatRequest k requestId rows) : Float) = responseP95 rows := by
      rw [responseP95, responseP95, responseTimes_repeatRequest hk]
    refine ⟨htime, fun v' hv' => ?_⟩
    have hle := totalConnections_le_repeatRequest hk requestId rows
    rw [vector?_eq, Option.ite_none_right_eq_some] at hv'
    obtain ⟨hfits, hv'⟩ := hv'
    refine ⟨_, (vector?_eq server rows).trans (if_pos (by omega)), ?_⟩
    rw [← Option.some.inj hv']
    exact htime
  · have hne' : repeatRequest k requestId rows ≠ [] := fun hnil =>
      hne (List.sublist_nil.mp (hnil ▸ sublist_repeatEach hk _ rows))
    have hserver' : ∀ row ∈ repeatRequest k requestId rows, row.serverId = server :=
      fun row hrow => hserver row ((mem_repeatEach hk).mp hrow)
    rw [scoreAll_of_single hne' hserver', scoreAll_of_single hne hserver,
      scoreGroup_repeatRequest hk, scoreGroup_eq_meanScore]
    exact ⟨rfl, rfl⟩

/-- A row of a request that took 100 ms, or of one that took 300 ms and failed. -/
def weighedRow (requestId : Int64) (load : Exact ℚ) : Row (Exact ℚ) :=
  .matched
    (if requestId = 1 then ⟨1, 7, .earliest, 100, .success⟩
    else ⟨requestId, 7, .earliest, 300, .failure⟩)
    ⟨7, 100, none⟩ ⟨7, .earliest, load, 25, 3⟩

/-- A request with two snapshots, and one with one. -/
def weighedRows : List (Row (Exact ℚ)) := [weighedRow 1 40, weighedRow 2 70, weighedRow 1 60]

/-- The first request scores 80, the second 224.1, and repeating the rows of the first does not
change the label. -/
theorem requests_weigh_alike_weighedRows :
    Label.scoreAll (repeatRequest 3 1 weighedRows) = Label.scoreAll weighedRows ∧
      Label.scoreAll weighedRows = [⟨7, 3041 / 20⟩] := by
  have hserver : ∀ row ∈ weighedRows, row.serverId = 7 := by
    simp [weighedRows, weighedRow, Row.matched, Row.unmatched]
  obtain ⟨hsame, hlabel⟩ :=
    (requests_weigh_alike (show 1 ≤ 3 by decide) 1 7).2 weighedRows (List.cons_ne_nil _ _) hserver
  have hmean : meanScore weighedRows = 3041 / 20 := by
    decide +kernel
  exact ⟨hsame, hmean ▸ hlabel⟩

end FleetScore
