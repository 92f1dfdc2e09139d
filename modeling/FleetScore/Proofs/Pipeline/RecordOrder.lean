import FleetScore.Pipeline.Run
import FleetScore.Proofs.Store.Matching

/-!
# The order in which records are held

A store holds three lists, and a database has no order to give them in.  So no order may be
visible in what is made of them: two stores with the same records, listed in different orders,
answer the same rows in the same order, and a pipeline that reads one of them does exactly what it
does when it reads the other.

This needs that the records can be told apart where the join puts them in order or looks them up.
`MemoryStore.IsKeyed` asks for as much and no more:

* no two requests share instant and identifier, by which requests are sorted;
* no two snapshots share server and instant, by which they are looked up and sorted;
* no two server records share their server, by which they are looked up.

Each of the three gives one fact about the join.  A sorted list without ties does not depend on the
order of its members (`mergeSort_requests_eq`, `matching_eq_of_perm`), and neither does a look-up
that can find at most one record (`lastRecord?_eq_of_perm`).  What the join answers is made of
nothing else (`join_eq_of_perm`).
-/

namespace FleetScore

theorem Instant.eq_of_key_eq {a b : Instant} (h : a.key = b.key) : a = b := by
  have ha := a.nano_lt
  have hb := b.nano_lt
  obtain ⟨second, nano, _, _, _⟩ := a
  obtain ⟨second', nano', _, _, _⟩ := b
  simp only [Instant.key] at h
  simp only [Instant.mk.injEq]
  dsimp only at ha hb
  omega

namespace Join

variable {R : Type}

/-! ## 1.  Look-ups and sorted lists -/

/-- Which record counts for a server does not depend on the order of the records, if the server
has no two of them. -/
theorem lastRecord?_eq_of_perm {servers servers' : List Server} (hperm : servers'.Perm servers)
    (hnodup : (servers.map Server.serverId).Nodup) (serverId : Int64) :
    lastRecord? servers' serverId = lastRecord? servers serverId := by
  have hfilter := hperm.filter fun s => decide (s.serverId = serverId)
  have hsame : (servers'.filter fun s => decide (s.serverId = serverId)) =
      servers.filter fun s => decide (s.serverId = serverId) := by
    by_cases hlisted : ∃ server ∈ servers, server.serverId = serverId
    · obtain ⟨server, hserver, rfl⟩ := hlisted
      rw [filter_key_eq_singleton hnodup hserver] at hfilter ⊢
      exact List.perm_singleton.mp hfilter
    · have hnone : (servers.filter fun s => decide (s.serverId = serverId)) = [] :=
        List.filter_eq_nil_iff.mpr fun server hserver h =>
          hlisted ⟨server, hserver, of_decide_eq_true h⟩
      rw [hnone] at hfilter ⊢
      exact hfilter.eq_nil
  rw [lastRecord?, hsame, lastRecord?]

/-- The snapshots of a request come in one order, however all snapshots are listed, if no two
of a server were taken at the same instant. -/
theorem matching_eq_of_perm {snapshots snapshots' : List (Snapshot R)}
    (hperm : snapshots'.Perm snapshots)
    (hnodup : (snapshots.map fun m => (m.serverId, m.timestamp)).Nodup) (tolerance : Span)
    (request : Request R) :
    matching tolerance snapshots' request = matching tolerance snapshots request := by
  refine (mergeSort_eq_of_perm sorts_timestamp (hperm.symm.filter _) ?_).symm
  intro a ha b hb hab hba
  obtain ⟨ha, hfa⟩ := List.mem_filter.mp ha
  obtain ⟨hb, hfb⟩ := List.mem_filter.mp hb
  rw [fits, decide_eq_true_eq] at hfa hfb
  rw [Instant.le_iff] at hab hba
  have hinstant : a.timestamp = b.timestamp := Instant.eq_of_key_eq (Int.le_antisymm hab hba)
  refine List.inj_on_of_nodup_map hnodup ha hb ?_
  exact Prod.ext (hfa.1.trans hfb.1.symm) hinstant

/-- Requests come in one order, however they are listed, if no two share instant and
identifier. -/
theorem mergeSort_requests_eq {requests requests' : List (Request R)}
    (hperm : requests'.Perm requests)
    (hnodup : (requests.map fun r => (r.timestamp, r.requestId)).Nodup) :
    requests'.mergeSort requestLe = requests.mergeSort requestLe := by
  refine (mergeSort_eq_of_perm sorts_requestLe hperm.symm ?_).symm
  intro a ha b hb hab hba
  rw [requestLe_iff] at hab hba
  have hinstant : a.timestamp = b.timestamp := Instant.eq_of_key_eq (by omega)
  have hid : a.requestId = b.requestId := Int64.le_antisymm
    (hab.resolve_left (by omega)).2 (hba.resolve_left (by omega)).2
  exact List.inj_on_of_nodup_map hnodup ha hb (Prod.ext hinstant hid)

/-! ## 2.  The join -/

/-- **What is found for a request**, without the index: the record that counts for its server,
and its snapshots in order of time. -/
theorem find_series (tolerance : Span) (servers : List Server) (snapshots : List (Snapshot R))
    (request : Request R) :
    find tolerance servers (series snapshots) request =
      match lastRecord? servers request.serverId with
      | none => .orphaned
      | some server => .known server (matching tolerance snapshots request) := by
  cases hrecord : lastRecord? servers request.serverId with
  | none => simp only [find, serverRecord?_eq_lastRecord?, hrecord]
  | some server => simp only [find, serverRecord?_eq_lastRecord?, hrecord, window_seriesOf]

/-- **The join does not depend on the order of its records**, neither in its rows nor in what it
counts. -/
theorem join_eq_of_perm {requests requests' : List (Request R)}
    {snapshots snapshots' : List (Snapshot R)} {servers servers' : List Server}
    (hrequests : requests'.Perm requests) (hsnapshots : snapshots'.Perm snapshots)
    (hservers : servers'.Perm servers)
    (hrequestKeys : (requests.map fun r => (r.timestamp, r.requestId)).Nodup)
    (hsnapshotKeys : (snapshots.map fun m => (m.serverId, m.timestamp)).Nodup)
    (hserverKeys : (servers.map Server.serverId).Nodup) (tolerance : Span) :
    join tolerance requests' snapshots' servers' = join tolerance requests snapshots servers := by
  have hfind : find tolerance servers' (series snapshots') =
      find tolerance servers (series snapshots) := by
    funext r
    rw [find_series, find_series, lastRecord?_eq_of_perm hservers hserverKeys,
      matching_eq_of_perm hsnapshots hsnapshotKeys]
  rw [join, join, mergeSort_requests_eq hrequests hrequestKeys, hfind]

end Join

/-! ## 3.  Stores -/

namespace MemoryStore

variable {R : Type}

/-- Whether the records of a store can be told apart by what they are sorted and looked up by:
no two requests share instant and identifier, no two snapshots server and instant, and no two
server records their server. -/
structure IsKeyed (s : MemoryStore R) : Prop where
  requests : (s.requests.map fun r => (r.timestamp, r.requestId)).Nodup
  snapshots : (s.snapshots.map fun m => (m.serverId, m.timestamp)).Nodup
  servers : (s.servers.map Server.serverId).Nodup

/-- Whether another store holds the same records, in whatever orders, and is read in the same
way. -/
structure Reorders (s s' : MemoryStore R) : Prop where
  settings : s'.settings = s.settings
  now : s'.now = s.now
  unavailable : s'.unavailable = s.unavailable
  requests : s'.requests.Perm s.requests
  snapshots : s'.snapshots.Perm s.snapshots
  servers : s'.servers.Perm s.servers

variable {s s' : MemoryStore R}

theorem Reorders.inWindow (h : s.Reorders s') : s'.inWindow.Perm s.inWindow := by
  have hcutoff : s'.cutoff = s.cutoff := by rw [cutoff, cutoff, h.now, h.settings]
  rw [MemoryStore.inWindow, MemoryStore.inWindow, hcutoff]
  exact h.requests.filter _

/-- **The rows of a store do not depend on the order of its records.** -/
theorem joined_eq_of_reorders (hkeyed : s.IsKeyed) (h : s.Reorders s') : s'.joined = s.joined := by
  have hrecent : (s.inWindow.map fun r => (r.timestamp, r.requestId)).Nodup :=
    hkeyed.requests.sublist (List.filter_sublist.map _)
  rw [joined, joined, h.settings]
  exact Join.join_eq_of_perm h.inWindow h.snapshots h.servers hrecent hkeyed.snapshots
    hkeyed.servers s.settings.tolerance

theorem fetch_eq_of_reorders (hkeyed : s.IsKeyed) (h : s.Reorders s') :
    (Source.memory s').fetch = (Source.memory s).fetch := by
  rw [Source.fetch, Source.fetch, h.unavailable, joined_eq_of_reorders hkeyed h]

end MemoryStore

/-- Of its source a run sees the name and what is fetched, and nothing else. -/
theorem Pipeline.run?_congr {p p' : Pipeline} (hfetch : p'.source.fetch = p.source.fetch)
    (hname : p'.source.name = p.source.name) (htraining : p'.training = p.training)
    (hexporter : p'.exporter = p.exporter) : p'.run? = p.run? := by
  have hexport : p'.exportModel = p.exportModel := by
    unfold exportModel
    rw [hexporter]
  have hprocess : p'.process? = p.process? := by
    unfold process? train?
    rw [htraining, hexport]
  have hexecute : p'.execute? = p.execute? := by
    unfold execute?
    rw [hfetch, hprocess]
  unfold run?
  rw [hexecute, hname, hexporter]

/-- **The order in which a store holds its records does not matter.**  If its records can be told
apart, a store with the same records in other orders answers the same rows in the same order, with
the same report.  So a run on one store is a run on the other, whatever is trained, exported and
measured: with the same features, labels, model and evaluation, the same files, metrics and events,
or the same failure. -/
theorem run?_eq_of_reorders {s s' : MemoryStore Float} (hkeyed : s.IsKeyed) (h : s.Reorders s') :
    (Source.memory s').fetch = (Source.memory s).fetch ∧
      ∀ (training : Training.Config Float) (exporter : Exporter) (clock : Clock)
        (state : ProcessState),
        (⟨.memory s', training, exporter⟩ : Pipeline).run? clock state =
          (⟨.memory s, training, exporter⟩ : Pipeline).run? clock state := by
  have hfetch := MemoryStore.fetch_eq_of_reorders hkeyed h
  refine ⟨hfetch, ?_⟩
  intro training exporter clock state
  have hrun : (⟨.memory s', training, exporter⟩ : Pipeline).run? =
      (⟨.memory s, training, exporter⟩ : Pipeline).run? :=
    Pipeline.run?_congr hfetch rfl rfl rfl
  rw [hrun]

/-! ### A store read backwards -/

/-- A store with two requests at one instant and a later one, three snapshots within the tolerance
of the first two, and two servers. -/
def crowdedStore : MemoryStore Float where
  settings := .standard
  requests := [
    ⟨5, 7, .orEarliest 1000 0, 40, .failure⟩,
    ⟨2, 8, .orEarliest 1000 0, 80, .success⟩,
    ⟨1, 7, .orEarliest 1100 0, 10, .success⟩]
  snapshots := [
    ⟨7, .orEarliest 990 0, 50, 25, 3⟩,
    ⟨7, .orEarliest 980 500000000, 30, 35, 4⟩,
    ⟨8, .orEarliest 990 0, 70, 75, 1⟩]
  servers := [⟨8, 50, none⟩, ⟨7, 100, some 2⟩]
  now := .orEarliest 3000 0
  unavailable := none

/-- The same store with all three lists in reverse. -/
def reversedStore : MemoryStore Float :=
  { crowdedStore with
    requests := crowdedStore.requests.reverse
    snapshots := crowdedStore.snapshots.reverse
    servers := crowdedStore.servers.reverse }

/-- Read in either order, the request with the smaller identifier comes first of the two at one
instant, and the snapshots of each request come in order of time. -/
theorem run?_eq_of_reorders_crowdedStore :
    crowdedStore.IsKeyed ∧ crowdedStore.Reorders reversedStore ∧
      (Source.memory reversedStore).fetch = (Source.memory crowdedStore).fetch ∧
      (crowdedStore.joined.rows.map fun row =>
        (row.requestId, row.metricTimestamp.map Instant.nanoseconds)) =
        [(2, some 990000000000), (5, some 980500000000), (5, some 990000000000), (1, none)] ∧
      (⟨.memory reversedStore, .standard, ⟨⟨"out"⟩, none⟩⟩ : Pipeline).run?
          ⟨.earliest, .earliest, .ofSeconds 1⟩ ⟨⟨[]⟩, .zero⟩ =
        (⟨.memory crowdedStore, .standard, ⟨⟨"out"⟩, none⟩⟩ : Pipeline).run?
          ⟨.earliest, .earliest, .ofSeconds 1⟩ ⟨⟨[]⟩, .zero⟩ := by
  have hkeyed : crowdedStore.IsKeyed := ⟨by decide, by decide, by decide⟩
  have hreorders : crowdedStore.Reorders reversedStore :=
    ⟨rfl, rfl, rfl, List.reverse_perm _, List.reverse_perm _, List.reverse_perm _⟩
  obtain ⟨hfetch, hrun⟩ := run?_eq_of_reorders hkeyed hreorders
  exact ⟨hkeyed, hreorders, hfetch, by cbv, hrun _ _ _ _⟩

end FleetScore
