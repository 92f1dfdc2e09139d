import FleetScore.Storage.FileTree

/-!
# Where a path leads

Whether a walk arrives depends on the files.  Where it arrives does not: every name on the way
is either entered or the walk fails, so a path that can be walked leads to one place, the one its
names spell.  `Path.place` reads that place off the text.

* `place_of_walk` --- a walk that succeeds ends at the place of its path;
* `place_child` --- the place of a file in a directory is that of the directory, one name further;
* `walk_child_of_walk` --- a walk to a file of a directory is not disturbed by changes to files, as
  long as directories stay directories.

`IsFileName` is what the three statements ask of a last name: it is there, it holds no separator
and no zero character, it is neither of the two dot names, and it is not too long.
-/

namespace FleetScore

/-! ## 1.  The place of a path -/

namespace Path

/-- The place a path leads to. -/
def place (p : Path) : Place := p.names.foldl Place.step p.start

/-- The places a path leads over when its directories are made: its own and those of the paths
to what lies above it. -/
def way (p : Path) : List Place := p.upwards.map place

/-- Whether a text is the name of a file: not empty, no dots only, without separators and zero
characters, and no longer than names can be. -/
structure IsFileName (name : String) : Prop where
  ne_empty : name ≠ ""
  noSeparator : '/' ∉ name.toList
  noZero : '\x00' ∉ name.toList
  isName : Place.isName name = true
  short : name.utf8ByteSize ≤ FileTree.nameLimit

theorem pieces_ne_nil (c : Char) (s : List Char) : pieces c s ≠ [] := by
  induction s with
  | nil => exact List.cons_ne_nil _ _
  | cons d s ih =>
    rw [pieces]
    by_cases h : d = c
    · rw [if_pos h]
      exact List.cons_ne_nil _ _
    · rw [if_neg h]
      split <;> exact List.cons_ne_nil _ _

theorem pieces_append_cons (c : Char) (s t : List Char) :
    pieces c (s ++ c :: t) = pieces c s ++ pieces c t := by
  induction s with
  | nil => simp [pieces]
  | cons d s ih =>
    rw [List.cons_append, pieces, pieces, ih]
    by_cases h : d = c
    · rw [if_pos h, if_pos h, List.cons_append]
    · rw [if_neg h, if_neg h]
      cases hs : pieces c s with
      | nil => exact absurd hs (pieces_ne_nil c s)
      | cons piece more => rfl

theorem pieces_of_notMem {c : Char} {s : List Char} (h : c ∉ s) : pieces c s = [s] := by
  induction s with
  | nil => rfl
  | cons d s ih =>
    have hd : d ≠ c := fun hd => h (by simp [hd])
    have hs : c ∉ s := fun hs => h (List.mem_cons_of_mem d hs)
    rw [pieces, if_neg hd, ih hs]

/-- The text of a file in a directory: a separator stands between the two, if there is a
directory and none stands there already. -/
theorem toList_child (dir : Path) (name : String) :
    (dir.child name).text.toList = dir.text.toList ++ name.toList ∧
        (dir.text.toList = [] ∨ ∃ r, dir.text.toList = r ++ ['/']) ∨
      (dir.child name).text.toList = dir.text.toList ++ '/' :: name.toList ∧
        dir.text.toList ≠ [] := by
  have hreverse : dir.text.toList = dir.text.toList.reverse.reverse := (List.reverse_reverse _).symm
  unfold child
  split
  · rename_i h
    rw [h] at hreverse
    left
    rw [hreverse]
    exact ⟨rfl, .inl rfl⟩
  · rename_i r h
    rw [h, List.reverse_cons] at hreverse
    left
    exact ⟨by simp, .inr ⟨_, hreverse⟩⟩
  · rename_i hnil _
    right
    refine ⟨by simp, fun h => hnil ?_⟩
    rw [h, List.reverse_nil]

variable {name : String} (hname : IsFileName name) (dir : Path)

include hname

theorem names_child : (dir.child name).names = dir.names ++ [name] := by
  have hne : name.toList ≠ [] := fun h => hname.ne_empty (String.toList_eq_nil_iff.mp h)
  have hpieces : pieces '/' name.toList = [name.toList] := pieces_of_notMem hname.noSeparator
  unfold names
  rcases toList_child dir name with ⟨htext, hdir | ⟨r, hr⟩⟩ | ⟨htext, -⟩
  · simp [htext, hdir, hpieces, pieces, hne]
  · rw [htext, hr, List.append_assoc, List.singleton_append, pieces_append_cons,
      pieces_append_cons, hpieces]
    simp [pieces, hne]
  · rw [htext, pieces_append_cons, hpieces]
    simp [hne]

theorem start_child : (dir.child name).start = dir.start := by
  have hhead : name.toList.head? ≠ some '/' := fun h => hname.noSeparator (List.mem_of_head? h)
  unfold start isAbsolute
  rcases toList_child dir name with ⟨htext, hdir | ⟨r, hr⟩⟩ | ⟨htext, hdir⟩
  · rw [htext, hdir, List.nil_append]
    simp [hhead]
  · rw [htext, hr, List.append_assoc]
    cases r <;> simp
  · rw [htext]
    obtain ⟨c, rest, hcons⟩ := List.exists_cons_of_ne_nil hdir
    rw [hcons]
    simp

theorem isClosed_child : (dir.child name).isClosed = false := by
  have hne : name.toList ≠ [] := fun h => hname.ne_empty (String.toList_eq_nil_iff.mp h)
  obtain ⟨c, hc⟩ : ∃ c, name.toList.getLast? = some c :=
    ⟨_, List.getLast?_eq_some_getLast hne⟩
  have hseparator : c ≠ '/' := fun h => hname.noSeparator (h ▸ List.mem_of_getLast? hc)
  have hlast : (dir.child name).text.toList.getLast? = some c := by
    rcases toList_child dir name with ⟨htext, -⟩ | ⟨htext, -⟩
    · rw [htext, List.getLast?_append, hc, Option.some_or]
    · rw [htext, List.getLast?_append, List.getLast?_cons_of_ne_nil hne, hc, Option.some_or]
  rw [isClosed, hlast]
  simpa using hseparator

/-- **The place of a file in a directory** is one name further than that of the directory. -/
theorem place_child : (dir.child name).place = dir.place ++ [name] := by
  have hstep : dir.place.step name = dir.place ++ [name] := by
    have hdots := hname.isName
    simp only [Place.isName, Bool.and_eq_true, bne_iff_ne, ne_eq] at hdots
    rw [Place.step, if_neg hdots.1, if_neg hdots.2]
  rw [place, names_child hname, start_child hname, List.foldl_append]
  exact hstep

end Path

/-! ## 2.  Walking -/

namespace FileTree

/-- Whoever enters a directory gets to where its name leads. -/
theorem enter_eq_ok {t : FileTree} {place q : Place} {name : String}
    (h : t.enter place name = .ok q) :
    q = place.step name ∧ t.find? q = some .directory ∧ name.utf8ByteSize ≤ nameLimit := by
  rw [enter, look] at h
  by_cases hlong : nameLimit < name.utf8ByteSize
  · rw [if_pos hlong] at h
    cases h
  · rw [if_neg hlong] at h
    have hshort : name.utf8ByteSize ≤ nameLimit := by omega
    cases hfind : t.find? (place.step name) with
    | none =>
      simp only [hfind] at h
      cases h
    | some entry =>
      cases entry with
      | directory =>
        simp only [hfind] at h
        obtain rfl : place.step name = q := Except.ok.inj h
        exact ⟨rfl, hfind, hshort⟩
      | file bytes =>
        simp only [hfind] at h
        cases h

theorem enter_of_directory {t : FileTree} {place : Place} {name : String}
    (hshort : name.utf8ByteSize ≤ nameLimit)
    (hfind : t.find? (place.step name) = some .directory) :
    t.enter place name = .ok (place.step name) := by
  rw [enter, look, if_neg (by omega)]
  simp only [hfind]
  rfl

theorem foldlM_enter_eq_ok {t : FileTree} {names : List String} {place q : Place}
    (h : names.foldlM t.enter place = .ok q) : q = names.foldl Place.step place := by
  induction names generalizing place with
  | nil => exact (Except.ok.inj h).symm
  | cons name names ih =>
    rw [List.foldlM_cons] at h
    cases henter : t.enter place name with
    | error fault =>
      rw [henter] at h
      cases h
    | ok q' =>
      rw [henter] at h
      obtain ⟨rfl, -, -⟩ := enter_eq_ok henter
      exact ih h

theorem foldlM_enter_mono {t u : FileTree}
    (hdirs : ∀ place, t.find? place = some .directory → u.find? place = some .directory)
    {names : List String} {place q : Place} (h : names.foldlM t.enter place = .ok q) :
    names.foldlM u.enter place = .ok q := by
  induction names generalizing place with
  | nil => exact h
  | cons name names ih =>
    rw [List.foldlM_cons] at h ⊢
    cases henter : t.enter place name with
    | error fault =>
      rw [henter] at h
      cases h
    | ok q' =>
      rw [henter] at h
      obtain ⟨rfl, hfind, hshort⟩ := enter_eq_ok henter
      rw [enter_of_directory hshort (hdirs _ hfind)]
      exact ih h

/-- What a walk goes by: a text without the character zero that is not empty and not too long,
and directories to enter. -/
theorem walk_eq_ok_iff {t : FileTree} {path : Path} {spot : Spot} :
    t.walk path = .ok spot ↔
      '\x00' ∉ path.text.toList ∧ path.text ≠ "" ∧ path.text.utf8ByteSize ≤ pathLimit ∧
        ∃ dir, path.names.dropLast.foldlM t.enter path.start = .ok dir ∧
          spot = ⟨dir, path.names.getLast?.getD ".", path.isClosed⟩ := by
  rw [walk]
  by_cases hzero : path.text.toList.contains '\x00' = true
  · rw [if_pos hzero]
    simp only [List.contains_iff_mem] at hzero
    simp [hzero]
  rw [if_neg hzero]
  by_cases hempty : path.text = ""
  · rw [if_pos hempty]
    simp [hempty]
  rw [if_neg hempty]
  by_cases hlong : pathLimit < path.text.utf8ByteSize
  · rw [if_pos hlong]
    simp [Nat.not_le.mpr hlong]
  rw [if_neg hlong]
  simp only [List.contains_iff_mem] at hzero
  cases hfold : path.names.dropLast.foldlM t.enter path.start with
  | error fault => simp [bind, Except.bind]
  | ok dir =>
    constructor
    · intro h
      exact ⟨hzero, hempty, by omega, dir, rfl, (Except.ok.inj h).symm⟩
    · rintro ⟨-, -, -, dir', hdir, rfl⟩
      rw [Except.ok.inj hdir]
      rfl

/-- **A walk ends at the place of its path.** -/
theorem place_of_walk {t : FileTree} {path : Path} {spot : Spot} (h : t.walk path = .ok spot) :
    spot.place = path.place := by
  obtain ⟨-, -, -, dir, hdir, rfl⟩ := walk_eq_ok_iff.mp h
  rw [Spot.place, foldlM_enter_eq_ok hdir, Path.place]
  rcases List.eq_nil_or_concat path.names with hnil | ⟨names, name, hnames⟩
  · rw [hnil]
    exact if_pos rfl
  · rw [hnames, List.concat_eq_append, List.dropLast_concat, List.getLast?_concat,
      List.foldl_append]
    rfl

variable {dir : Path} {name : String}

theorem walk_child (hname : Path.IsFileName name) {t : FileTree} {spot : Spot}
    (h : t.walk (dir.child name) = .ok spot) : spot = ⟨dir.place, name, false⟩ := by
  obtain ⟨-, -, -, place, hplace, rfl⟩ := walk_eq_ok_iff.mp h
  rw [Path.names_child hname, Path.start_child hname, List.dropLast_concat] at hplace
  rw [Path.names_child hname, List.getLast?_concat, Path.isClosed_child hname,
    foldlM_enter_eq_ok hplace]
  rfl

/-- **Where one file of a directory can be walked to, another can**, as long as the directories
stay and the path does not grow too long. -/
theorem walk_child_of_walk (hname : Path.IsFileName name) {name' : String}
    (hname' : Path.IsFileName name') {t u : FileTree}
    (hdirs : ∀ place, t.find? place = some .directory → u.find? place = some .directory)
    {spot : Spot} (h : t.walk (dir.child name) = .ok spot)
    (hlimit : (dir.child name').text.utf8ByteSize ≤ pathLimit) :
    u.walk (dir.child name') = .ok ⟨dir.place, name', false⟩ := by
  obtain ⟨hzero, -, -, place, hplace, -⟩ := walk_eq_ok_iff.mp h
  rw [Path.names_child hname, Path.start_child hname, List.dropLast_concat] at hplace
  have hdir : '\x00' ∉ dir.text.toList := by
    rcases Path.toList_child dir name with ⟨htext, -⟩ | ⟨htext, -⟩ <;> rw [htext] at hzero <;>
      exact fun h => hzero (List.mem_append_left _ h)
  have hzero' : '\x00' ∉ (dir.child name').text.toList := by
    rcases Path.toList_child dir name' with ⟨htext, -⟩ | ⟨htext, -⟩ <;> rw [htext] <;>
      simp [hdir, hname'.noZero]
  have hempty' : (dir.child name').text ≠ "" := by
    intro hempty
    have hnil : (dir.child name').text.toList = [] := String.toList_eq_nil_iff.mpr hempty
    rcases Path.toList_child dir name' with ⟨htext, -⟩ | ⟨htext, -⟩ <;> rw [htext] at hnil <;>
      simp [hname'.ne_empty] at hnil
  refine walk_eq_ok_iff.mpr ⟨hzero', hempty', hlimit, place, ?_, ?_⟩
  · rw [Path.names_child hname', Path.start_child hname', List.dropLast_concat]
    exact foldlM_enter_mono hdirs hplace
  · rw [Path.names_child hname', List.getLast?_concat, Path.isClosed_child hname',
      foldlM_enter_eq_ok hplace]
    rfl

end FileTree

end FleetScore
