import FleetScore.Proofs.Storage.Paths

/-!
# Files that are absent

A file is *absent* if the way of its path breaks off: the names of the path lead through directories
up to a name under which nothing stands, be it the last one or one before.  This is not the only
reason why nothing can be read.  A directory can stand at the end of the way, a file can stand in
the middle of it, and a path may not be one that can be handed to a file system at all.

`FileTree.read_eq_notFound_iff` says that reading tells absent files from all others.  The
induction is on the names of the path, and it goes along with the walk: the names before the last
are entered, and the last one is looked up.
-/

namespace FleetScore
namespace FileTree

/-- Whether a way breaks off: names lead through directories up to one under which nothing
stands. -/
inductive BreaksOff (t : FileTree) : Place → List String → Prop where
  | here {place : Place} {name : String} (rest : List String)
      (hshort : name.utf8ByteSize ≤ nameLimit) (hnone : t.find? (place.step name) = none) :
      BreaksOff t place (name :: rest)
  | further {place : Place} {name : String} {rest : List String}
      (hshort : name.utf8ByteSize ≤ nameLimit)
      (hdirectory : t.find? (place.step name) = some .directory)
      (hrest : BreaksOff t (place.step name) rest) : BreaksOff t place (name :: rest)

/-- Whether a path leads to nothing: it is empty, or its way breaks off.  A path that leads through a
file is not counted, and neither is one with a name that is too long: what stands there cannot be
asked for. -/
def IsAbsent (t : FileTree) (path : Path) : Prop :=
  path.text = "" ∨ '\x00' ∉ path.text.toList ∧ path.text.utf8ByteSize ≤ pathLimit ∧
    t.BreaksOff path.start path.names

theorem bind_eq_error_iff {ε α β : Type} {x : Except ε α} {f : α → Except ε β} {e : ε} :
    x >>= f = .error e ↔ x = .error e ∨ ∃ a, x = .ok a ∧ f a = .error e := by
  cases x with
  | error e' =>
    constructor
    · intro h
      obtain rfl : e' = e := Except.error.inj h
      exact .inl rfl
    · rintro (h | ⟨a, h, -⟩)
      · obtain rfl := Except.error.inj h
        rfl
      · cases h
  | ok a =>
    constructor
    · intro h
      exact .inr ⟨a, rfl, h⟩
    · rintro (h | ⟨a', h, hf⟩)
      · cases h
      · obtain rfl := Except.ok.inj h
        exact hf

theorem look_eq_none_iff {t : FileTree} {place : Place} {name : String} :
    t.look place name = .ok none ↔
      name.utf8ByteSize ≤ nameLimit ∧ t.find? (place.step name) = none := by
  rw [look]
  by_cases hlong : nameLimit < name.utf8ByteSize
  · rw [if_pos hlong]
    exact iff_of_false (fun h => by cases h) fun h => absurd h.1 (Nat.not_le.mpr hlong)
  · rw [if_neg hlong]
    constructor
    · intro h
      exact ⟨Nat.not_lt.mp hlong, Except.ok.inj h⟩
    · rintro ⟨-, hnone⟩
      rw [hnone]

/-- Looking up itself does not say that nothing is there. -/
theorem look_ne_notFound (t : FileTree) (place : Place) (name : String) :
    t.look place name ≠ .error .notFound := by
  rw [look]
  split <;> exact fun h => by cases h

theorem enter_eq_notFound_iff {t : FileTree} {place : Place} {name : String} :
    t.enter place name = .error .notFound ↔ t.look place name = .ok none := by
  rw [enter, bind_eq_error_iff]
  constructor
  · rintro (h | ⟨entry, hlook, h⟩)
    · exact absurd h (t.look_ne_notFound place name)
    · cases entry with
      | none => exact hlook
      | some entry => cases entry <;> cases h
  · intro h
    exact .inr ⟨none, h, rfl⟩

/-- **The names of a way are walked in vain exactly if the way breaks off.** -/
theorem breaksOff_iff {t : FileTree} {names : List String} (hne : names ≠ []) (place : Place) :
    t.BreaksOff place names ↔
      names.dropLast.foldlM t.enter place = .error .notFound ∨
        ∃ dir, names.dropLast.foldlM t.enter place = .ok dir ∧
          t.look dir (names.getLast hne) = .ok none := by
  induction names generalizing place with
  | nil => exact absurd rfl hne
  | cons name rest ih =>
    cases rest with
    | nil =>
      constructor
      · intro h
        cases h with
        | here _ hshort hnone => exact .inr ⟨place, rfl, look_eq_none_iff.mpr ⟨hshort, hnone⟩⟩
        | further _ _ hrest => cases hrest
      · rintro (h | ⟨dir, hdir, hlook⟩)
        · cases h
        · obtain rfl := Except.ok.inj hdir
          obtain ⟨hshort, hnone⟩ := look_eq_none_iff.mp hlook
          exact .here [] hshort hnone
    | cons next rest =>
      have hnext : next :: rest ≠ [] := List.cons_ne_nil next rest
      rw [List.getLast_cons hnext]
      show _ ↔ (t.enter place name >>= fun q => (next :: rest).dropLast.foldlM t.enter q) = _ ∨
        ∃ dir, (t.enter place name >>= fun q => (next :: rest).dropLast.foldlM t.enter q) =
          .ok dir ∧ _
      constructor
      · intro h
        cases h with
        | here _ hshort hnone =>
          rw [enter_eq_notFound_iff.mpr (look_eq_none_iff.mpr ⟨hshort, hnone⟩)]
          exact .inl rfl
        | further hshort hdirectory hrest =>
          rw [enter_of_directory hshort hdirectory]
          exact (ih hnext _).mp hrest
      · intro h
        cases henter : t.enter place name with
        | ok q =>
          obtain ⟨rfl, hdirectory, hshort⟩ := enter_eq_ok henter
          rw [henter] at h
          exact .further hshort hdirectory ((ih hnext _).mpr h)
        | error fault =>
          rw [henter] at h
          obtain h | ⟨dir, h, -⟩ := h
          · obtain rfl : fault = .notFound := Except.error.inj h
            obtain ⟨hshort, hnone⟩ := look_eq_none_iff.mp (enter_eq_notFound_iff.mp henter)
            exact .here _ hshort hnone
          · cases h

theorem walk_eq_notFound_iff {t : FileTree} {path : Path} :
    t.walk path = .error .notFound ↔
      path.text = "" ∨ '\x00' ∉ path.text.toList ∧ path.text.utf8ByteSize ≤ pathLimit ∧
        path.names.dropLast.foldlM t.enter path.start = .error .notFound := by
  rw [walk]
  by_cases hempty : path.text = ""
  · rw [if_pos hempty, hempty]
    exact iff_of_true rfl (.inl rfl)
  by_cases hzero : '\x00' ∈ path.text.toList
  · rw [if_pos (List.contains_iff_mem.mpr hzero)]
    refine iff_of_false (fun h => by cases h) ?_
    rintro (h | ⟨h, -⟩)
    · exact hempty h
    · exact h hzero
  rw [if_neg fun h => hzero (List.contains_iff_mem.mp h), if_neg hempty]
  by_cases hlong : pathLimit < path.text.utf8ByteSize
  · rw [if_pos hlong]
    refine iff_of_false (fun h => by cases h) ?_
    rintro (h | ⟨-, h, -⟩)
    · exact hempty h
    · exact absurd h (Nat.not_le.mpr hlong)
  rw [if_neg hlong, bind_eq_error_iff]
  constructor
  · rintro (h | ⟨dir, -, h⟩)
    · exact .inr ⟨hzero, Nat.not_lt.mp hlong, h⟩
    · cases h
  · rintro (h | ⟨-, -, h⟩)
    · exact absurd h hempty
    · exact .inl h

/-- A path starts in a directory. -/
theorem find?_start (t : FileTree) (path : Path) : t.find? path.start = some .directory := by
  have hbase : path.start.isBase = true := by
    rw [Path.start]
    split <;> rfl
  rw [find?, if_pos hbase]

/-- Reading finds nothing exactly if the walk finds nothing, or ends at a name under which nothing
stands. -/
theorem read_eq_notFound_iff_walk {t : FileTree} {path : Path} :
    t.read path = .error .notFound ↔ t.walk path = .error .notFound ∨
      ∃ spot, t.walk path = .ok spot ∧ t.look spot.dir spot.name = .ok none := by
  rw [read, bind_eq_error_iff]
  refine or_congr_right (exists_congr fun spot => and_congr_right fun _ => ?_)
  rw [bind_eq_error_iff]
  constructor
  · rintro (h | ⟨entry, hlook, h⟩)
    · exact absurd h (t.look_ne_notFound spot.dir spot.name)
    · rcases entry with _ | _ | bytes
      · exact hlook
      · cases h
      · dsimp only at h
        split at h <;> cases h
  · intro h
    exact .inr ⟨none, h, rfl⟩

/-- **Reading finds nothing exactly if a file is absent.** -/
theorem read_eq_notFound_iff {t : FileTree} {path : Path} :
    t.read path = .error .notFound ↔ t.IsAbsent path := by
  rw [read_eq_notFound_iff_walk, walk_eq_notFound_iff, IsAbsent]
  simp only [walk_eq_ok_iff]
  by_cases hempty : path.text = ""
  · exact iff_of_true (.inl (.inl hempty)) (.inl hempty)
  by_cases hnames : path.names = []
  · have hstart : t.look path.start "." = .ok (some .directory) := by
      rw [look, if_neg (by decide)]
      exact congrArg Except.ok (t.find?_start path)
    rw [hnames]
    constructor
    · rintro ((h | ⟨-, -, h⟩) | ⟨spot, ⟨-, -, -, dir, hdir, rfl⟩, hlook⟩)
      · exact absurd h hempty
      · cases h
      · obtain rfl := Except.ok.inj hdir
        cases hstart.symm.trans hlook
    · rintro (h | ⟨-, -, h⟩)
      · exact absurd h hempty
      · cases h
  have hlast : path.names.getLast?.getD "." = path.names.getLast hnames := by
    rw [List.getLast?_eq_some_getLast hnames, Option.getD_some]
  rw [breaksOff_iff hnames, hlast]
  constructor
  · rintro ((h | ⟨hzero, hlong, h⟩) | ⟨spot, ⟨hzero, -, hlong, dir, hdir, rfl⟩, hlook⟩)
    · exact absurd h hempty
    · exact .inr ⟨hzero, hlong, .inl h⟩
    · exact .inr ⟨hzero, hlong, .inr ⟨dir, hdir, hlook⟩⟩
  · rintro (h | ⟨hzero, hlong, h | ⟨dir, hdir, hlook⟩⟩)
    · exact absurd h hempty
    · exact .inl (.inr ⟨hzero, hlong, h⟩)
    · exact .inr ⟨_, ⟨hzero, hempty, hlong, dir, hdir, rfl⟩, hlook⟩

theorem readText_eq_notFound_iff {t : FileTree} {path : Path} :
    t.readText path = .error .notFound ↔ t.IsAbsent path := by
  rw [← read_eq_notFound_iff, readText, bind_eq_error_iff]
  constructor
  · rintro (h | ⟨bytes, -, h⟩)
    · exact h
    · split at h <;> cases h
  · intro h
    exact .inl h

theorem readText_eq_ok_iff {t : FileTree} {path : Path} {text : String} :
    t.readText path = .ok text ↔
      ∃ bytes, t.read path = .ok bytes ∧ String.fromUTF8? bytes = some text := by
  rw [readText]
  cases t.read path with
  | error fault =>
    refine iff_of_false (fun h => by cases h) ?_
    rintro ⟨bytes, h, -⟩
    cases h
  | ok bytes =>
    simp only [bind, Except.bind, Except.ok.injEq, exists_eq_left']
    cases String.fromUTF8? bytes <;> simp

end FileTree
end FleetScore
