import FleetScore.Settings.TrainerSettings
import FleetScore.Proofs.Artifact.Loading
import FleetScore.Proofs.Json.CompactLayout
import Mathlib.Data.List.TakeWhile
import Mathlib.Data.List.Nodup

/-!
# Settings in two layers

The settings of the trainer come from a file and, above it, from variables.  Here both are
spelled as they are meant to be: a variable is the mark and capital letters, digits and
underscores behind it (`IsVariable`), a name in the file has small letters instead (`IsKey`).
Then a variable stands for one key, and each key has one variable (`ofVariable?_variableName`,
`variableName_injective`), so that no name of either layer is a path into a table.

Two layers of such names are put into the table name by name, the second winning
(`lookup_putAll`).  What is put under a name is read back as it was put: only a table is put
into what is there before it, and no setting of the trainer is read from a table
(`Scalar.decode_overlay`).  The rest is the reading of eleven members (`ofTable?_eq_some_iff`), and
together that is `TrainerSettings.layers_resolve`.

One thing is not as it is often put.  A file that is named and not there is no fault if there is one
with the extension of a format added, as `confFiles` has it.  If there are several of them, which one
is read is the formats' affair; if there is one, it is that one (`SettingsFormats.locate?_beside`).
-/

namespace FleetScore

/-! ## 1.  Names -/

namespace SettingsLayer

/-- Whether a character may stand in a key: a small letter, a digit or an underscore. -/
def IsKeyChar (c : Char) : Prop := c.isLower = true ∨ c.isDigit = true ∨ c = '_'

/-- Whether a character may stand in the name of a variable: a capital letter, a digit or an
underscore. -/
def IsVariableChar (c : Char) : Prop := c.isUpper = true ∨ c.isDigit = true ∨ c = '_'

instance (c : Char) : Decidable (IsKeyChar c) := inferInstanceAs (Decidable (_ ∨ _ ∨ _))

instance (c : Char) : Decidable (IsVariableChar c) := inferInstanceAs (Decidable (_ ∨ _ ∨ _))

/-- Whether a name is spelled with small letters, digits and underscores. -/
def IsKey (name : String) : Prop := ∀ c ∈ name.toList, IsKeyChar c

instance (name : String) : Decidable (IsKey name) := List.decidableBAll _ _

/-- What the names of variables begin with, in capitals. -/
def variableMark : String := "TRAINER_"

/-- Whether a name is that of a variable: the mark, and behind it capital letters, digits and
underscores. -/
def IsVariable (name : String) : Prop :=
  ∃ rest : List Char, name.toList = variableMark.toList ++ rest ∧ ∀ c ∈ rest, IsVariableChar c

/-- The variable for a key. -/
def variableName (key : String) : String :=
  variableMark ++ String.ofList (key.toList.map Char.toUpper)

/-- What holds of all characters below 128 holds of one that is. -/
theorem of_ascii {P : Char → Prop} (h : ∀ n < 128, P (Char.ofNat n)) {c : Char}
    (hc : c.toNat < 128) : P c := by
  have hchar := h c.toNat hc
  rwa [Char.ofNat_toNat] at hchar

theorem toNat_lt_of_isLower {c : Char} (h : c.isLower = true) : c.toNat < 128 := by
  simp [Char.isLower, UInt32.le_iff_toNat_le] at h
  omega

theorem toNat_lt_of_isUpper {c : Char} (h : c.isUpper = true) : c.toNat < 128 := by
  simp [Char.isUpper, UInt32.le_iff_toNat_le] at h
  omega

theorem toNat_lt_of_isDigit {c : Char} (h : c.isDigit = true) : c.toNat < 128 := by
  simp [Char.isDigit, UInt32.le_iff_toNat_le] at h
  omega

theorem IsKeyChar.toNat_lt {c : Char} : IsKeyChar c → c.toNat < 128
  | .inl h => toNat_lt_of_isLower h
  | .inr (.inl h) => toNat_lt_of_isDigit h
  | .inr (.inr h) => by rw [h]; decide

theorem IsVariableChar.toNat_lt {c : Char} : IsVariableChar c → c.toNat < 128
  | .inl h => toNat_lt_of_isUpper h
  | .inr (.inl h) => toNat_lt_of_isDigit h
  | .inr (.inr h) => by rw [h]; decide

/-- A character of a key keeps its case, comes back from its capital, and is one of a name. -/
theorem IsKeyChar.spec {c : Char} (h : IsKeyChar c) :
    lower c = c ∧ lower c.toUpper = c ∧ SettingPath.isNameChar c = true :=
  of_ascii (P := fun c => IsKeyChar c →
    lower c = c ∧ lower c.toUpper = c ∧ SettingPath.isNameChar c = true)
    (by decide +kernel) h.toNat_lt h

/-- A character of a variable has a small form that may stand in a key, and comes back from it. -/
theorem IsVariableChar.spec {c : Char} (h : IsVariableChar c) :
    IsKeyChar c.toLower ∧ c.toLower.toUpper = c :=
  of_ascii (P := fun c => IsVariableChar c → IsKeyChar c.toLower ∧ c.toLower.toUpper = c)
    (by decide +kernel) h.toNat_lt h

theorem map_eq_self {f : Char → Char} {s : List Char} (h : ∀ c ∈ s, f c = c) : s.map f = s :=
  (List.map_congr_left (g := id) h).trans (List.map_id s)

/-- A key is its own form without regard to case. -/
theorem fold_of_isKey {key : String} (h : IsKey key) : fold key = key.toList :=
  map_eq_self fun c hc => (h c hc).spec.1

theorem ofName_of_isKey {key : String} (h : IsKey key) :
    SettingPath.ofName key = [.member key] := by
  have htake : key.toList.takeWhile SettingPath.isNameChar = key.toList :=
    List.takeWhile_eq_self_iff.2 fun c hc => (h c hc).spec.2.2
  have hdrop : key.toList.dropWhile SettingPath.isNameChar = [] :=
    List.dropWhile_eq_nil_iff.2 fun c hc => (h c hc).spec.2.2
  rw [SettingPath.ofName, SettingPath.nameRun, htake, hdrop]
  split
  · rfl
  · rename_i first rest _ hrun
    obtain ⟨rfl, rfl⟩ := Prod.mk.inj hrun
    simp [SettingPath.steps?]

/-- **A variable is the variable for a key.** -/
theorem exists_variableName {name : String} (h : IsVariable name) :
    ∃ key, IsKey key ∧ name = variableName key := by
  obtain ⟨rest, hname, hrest⟩ := h
  refine ⟨String.ofList (rest.map Char.toLower), ?_, ?_⟩
  · intro c hc
    rw [String.toList_ofList] at hc
    obtain ⟨d, hd, rfl⟩ := List.mem_map.1 hc
    exact (hrest d hd).spec.1
  · have hback : (rest.map Char.toLower).map Char.toUpper = rest := by
      rw [List.map_map]
      exact map_eq_self fun c hc => (hrest c hc).spec.2
    rw [variableName, String.toList_ofList, hback, ← String.toList_inj, String.toList_append,
      String.toList_ofList, hname]

/-- **The variable for a key holds the setting of the key.** -/
theorem ofVariable?_variableName {key : String} (h : IsKey key) (text : String) :
    ofVariable? (variableName key, text) = some (key, Setting.ofVariable text) := by
  have hkey : (key.toList.map Char.toUpper).map lower = key.toList := by
    rw [List.map_map]
    exact map_eq_self fun c hc => (h c hc).spec.2.1
  have hfold : fold (variableName key) = mark ++ key.toList := by
    rw [fold, variableName, String.toList_append, List.map_append, String.toList_ofList, hkey]
    rfl
  have hprefix : mark.isPrefixOf (mark ++ key.toList) = true :=
    List.isPrefixOf_iff_prefix.2 (List.prefix_append _ _)
  rw [ofVariable?]
  dsimp only
  rw [hfold, if_pos hprefix, List.drop_left, String.ofList_toList]

theorem variableName_injective {key other : String} (h : IsKey key) (hother : IsKey other)
    (heq : variableName key = variableName other) : key = other := by
  have hkey := ofVariable?_variableName h ""
  rw [heq, ofVariable?_variableName hother ""] at hkey
  exact (Prod.mk.inj (Option.some.inj hkey)).1.symm

theorem IsKeyChar.toUpper {c : Char} (h : IsKeyChar c) : IsVariableChar c.toUpper :=
  of_ascii (P := fun c => IsKeyChar c → IsVariableChar c.toUpper) (by decide +kernel) h.toNat_lt h

theorem isVariable_variableName {key : String} (h : IsKey key) : IsVariable (variableName key) := by
  refine ⟨key.toList.map Char.toUpper, ?_, fun c hc => ?_⟩
  · rw [variableName, String.toList_append, String.toList_ofList]
  · obtain ⟨d, hd, rfl⟩ := List.mem_map.1 hc
    exact (h d hd).toUpper

/-! ## 2.  Putting a layer into a table

A layer of which each name is a key and stands once.
-/

/-- Whether the names of a layer are keys, each of which stands once. -/
structure IsFlat (layer : SettingsLayer) : Prop where
  keys : ∀ s ∈ layer, IsKey s.1
  nodup : (layer.map Prod.fst).Nodup

/-- The members of a table after a layer of keys was put into it. -/
def putAll (layer : SettingsLayer) (members : List (String × Setting)) :
    List (String × Setting) :=
  layer.foldl (fun members s => Setting.enter s.1 (Setting.overlay (members.lookup s.1) s.2)
    members) members

theorem putInto?_eq_putAll {layer : SettingsLayer} (h : ∀ s ∈ layer, IsKey s.1)
    (members : List (String × Setting)) :
    putInto? layer (.table members) = some (.table (putAll layer members)) := by
  induction layer generalizing members with
  | nil => rfl
  | cons s rest ih =>
      have hassign : (Setting.table members).assign? s.1 s.2 = some (.table
          (Setting.enter s.1 (Setting.overlay (members.lookup s.1) s.2) members)) := by
        rw [Setting.assign?, ofName_of_isKey (h s List.mem_cons_self)]
        rfl
      rw [putInto?, List.foldlM_cons, hassign]
      exact ih (fun t ht => h t (List.mem_cons_of_mem _ ht)) _

/-- **A name has what the layer puts under it, and what it had if the layer puts nothing.** -/
theorem lookup_putAll {layer : SettingsLayer} (h : (layer.map Prod.fst).Nodup)
    (members : List (String × Setting)) (name : String) :
    (putAll layer members).lookup name
      = ((layer.lookup name).map (Setting.overlay (members.lookup name))).or
          (members.lookup name) := by
  induction layer generalizing members with
  | nil => rfl
  | cons s rest ih =>
      obtain ⟨key, value⟩ := s
      obtain ⟨hkey, hrest⟩ := List.nodup_cons.1 h
      rw [putAll, List.foldl_cons, ← putAll, ih hrest, Setting.lookup_enter, List.lookup_cons]
      rcases Decidable.em (name = key) with rfl | hne
      · have hnone : rest.lookup name = none :=
          List.lookup_eq_none_iff.2 fun t ht => by
            simp only [bne_iff_ne, ne_eq]
            rintro rfl
            exact hkey (List.mem_map.2 ⟨t, ht, rfl⟩)
        simp [hnone]
      · rw [if_neg hne, beq_eq_false_iff_ne.2 hne]

/-! ## 3.  The two layers -/

/-- Whether variables are spelled as they are meant to be, each of them once. -/
structure AreVariables (env : Environment) : Prop where
  names : ∀ v ∈ env, IsVariable v.1
  nodup : (env.map Prod.fst).Nodup

theorem AreVariables.tail {v : String × String} {env : Environment} (h : AreVariables (v :: env)) :
    AreVariables env where
  names w hw := h.names w (List.mem_cons_of_mem _ hw)
  nodup := (List.nodup_cons.1 h.nodup).2

/-- **A key is set by its variable.** -/
theorem lookup_ofEnvironment {env : Environment} (h : ∀ v ∈ env, IsVariable v.1) {key : String}
    (hkey : IsKey key) :
    (ofEnvironment env).lookup key
      = (env.lookup (variableName key)).map Setting.ofVariable := by
  induction env with
  | nil => rfl
  | cons v rest ih =>
      obtain ⟨name, text⟩ := v
      obtain ⟨other, hother, rfl⟩ := exists_variableName (h _ List.mem_cons_self)
      have hrest := ih fun w hw => h w (List.mem_cons_of_mem _ hw)
      rw [ofEnvironment, List.filterMap_cons_some (ofVariable?_variableName hother text),
        List.lookup_cons, List.lookup_cons, ← ofEnvironment, hrest]
      rcases Decidable.em (key = other) with rfl | hne
      · simp
      · have hnames : variableName key ≠ variableName other :=
          fun heq => hne (variableName_injective hkey hother heq)
        rw [beq_eq_false_iff_ne.2 hne, beq_eq_false_iff_ne.2 hnames]

theorem mem_ofEnvironment {env : Environment} (h : ∀ v ∈ env, IsVariable v.1)
    {s : String × Setting} (hs : s ∈ ofEnvironment env) :
    IsKey s.1 ∧ ∃ text, (variableName s.1, text) ∈ env ∧ s.2 = Setting.ofVariable text := by
  obtain ⟨⟨name, text⟩, hv, hset⟩ := List.mem_filterMap.1 hs
  obtain ⟨key, hkey, rfl⟩ := exists_variableName (h _ hv)
  rw [ofVariable?_variableName hkey] at hset
  obtain rfl := Option.some.inj hset
  exact ⟨hkey, text, hv, rfl⟩

theorem isFlat_ofEnvironment {env : Environment} (h : AreVariables env) :
    IsFlat (ofEnvironment env) where
  keys _ hs := (mem_ofEnvironment h.names hs).1
  nodup := by
    induction env with
    | nil => exact List.nodup_nil
    | cons v rest ih =>
        obtain ⟨name, text⟩ := v
        obtain ⟨key, hkey, rfl⟩ := exists_variableName (h.names _ List.mem_cons_self)
        rw [ofEnvironment, List.filterMap_cons_some (ofVariable?_variableName hkey text),
          List.map_cons, List.nodup_cons]
        refine ⟨fun hmem => ?_, ih h.tail⟩
        obtain ⟨s, hs, rfl⟩ := List.mem_map.1 hmem
        obtain ⟨-, other, hother, -⟩ := mem_ofEnvironment h.tail.names hs
        exact (List.nodup_cons.1 h.nodup).1 (List.mem_map.2 ⟨_, hother, rfl⟩)

/-- The members of a document. -/
abbrev Members := List (Option String × Json)

/-- Whether the names of a document's members are keys. -/
def AreKeys (members : Members) : Prop := ∀ m ∈ members, ∃ key, m.1 = some key ∧ IsKey key

/-- What a document says of a name; where it says several things, the last. -/
def lastOf (members : Members) (name : String) : Option Json :=
  (Json.valuesOf name members).getLast?

theorem lastOf_cons (m : Option String × Json) (rest : Members) (name : String) :
    lastOf (m :: rest) name
      = (lastOf rest name).or (if m.1 = some name then some m.2 else none) := by
  rcases Decidable.em (m.1 = some name) with h | h
  · simp [lastOf, Json.valuesOf, h, List.getLast?_cons]
  · simp [lastOf, Json.valuesOf, h]

/-- **A name of a document is entered with what the document says of it last.** -/
theorem lookup_membersOfJson (members : Members) (entered : List (String × Setting))
    (name : String) :
    (Setting.membersOfJson entered members).lookup name
      = ((lastOf members name).map Setting.ofJson).or (entered.lookup name) := by
  induction members generalizing entered with
  | nil => rw [Setting.membersOfJson]; rfl
  | cons m rest ih =>
      obtain ⟨_ | other, j⟩ := m
      · rw [Setting.membersOfJson, ih, lastOf_cons]
        simp
      · rw [Setting.membersOfJson, ih, lastOf_cons, Setting.lookup_enter]
        cases lastOf rest name with
        | some j => rfl
        | none =>
            rcases Decidable.em (name = other) with rfl | hne
            · simp
            · simp [hne, Ne.symm hne]

theorem nodup_enter {entries : List (String × Setting)} (h : (entries.map Prod.fst).Nodup)
    (key : String) (value : Setting) :
    ((Setting.enter key value entries).map Prod.fst).Nodup ∧
      ∀ e ∈ Setting.enter key value entries, e.1 = key ∨ e ∈ entries := by
  induction entries with
  | nil => simp [Setting.enter]
  | cons entry rest ih =>
      obtain ⟨hentry, hrest⟩ := List.nodup_cons.1 h
      rcases Decidable.em (entry.1 = key) with rfl | hne
      · rw [Setting.enter, if_pos rfl]
        exact ⟨List.nodup_cons.2 ⟨hentry, hrest⟩, by simp; tauto⟩
      · obtain ⟨hnodup, hmem⟩ := ih hrest
        rw [Setting.enter, if_neg hne]
        refine ⟨List.nodup_cons.2 ⟨fun hin => ?_, hnodup⟩, by simp; grind⟩
        obtain ⟨e, he, heq⟩ := List.mem_map.1 hin
        rcases hmem e he with hkey | hold
        · exact hne (heq.symm.trans hkey)
        · exact hentry (heq ▸ List.mem_map_of_mem hold)

theorem isFlat_nil : IsFlat [] := ⟨nofun, List.nodup_nil⟩

theorem isFlat_membersOfJson {members : Members} (h : AreKeys members)
    {entered : List (String × Setting)} (hentered : IsFlat entered) :
    IsFlat (Setting.membersOfJson entered members) := by
  induction members generalizing entered with
  | nil => rwa [Setting.membersOfJson]
  | cons m rest ih =>
      obtain ⟨name, j⟩ := m
      obtain ⟨key, rfl, hkey⟩ := h _ List.mem_cons_self
      obtain ⟨hnodup, hmem⟩ := nodup_enter hentered.nodup key (Setting.ofJson j)
      rw [Setting.membersOfJson]
      refine ih (fun m hm => h m (List.mem_cons_of_mem _ hm)) ⟨fun s hs => ?_, hnodup⟩
      rcases hmem s hs with rfl | hold
      · exact hkey
      · exact hentered.keys s hold

theorem ofJson?_object {members : Members} (h : AreKeys members) :
    ofJson? (.object members) = some (Setting.membersOfJson [] members) := by
  have hflat := isFlat_membersOfJson h isFlat_nil
  rw [ofJson?, Setting.ofJson]
  refine congrArg some ((List.map_congr_left (g := id) fun s hs => ?_).trans (List.map_id _))
  rw [fold_of_isKey (hflat.keys s hs), String.ofList_toList]
  rfl

end SettingsLayer

/-! ## 4.  Values

A variable is never a table, and what is read from a table is none of the trainer's settings.
-/

namespace Setting

/-- What is set replaces what was there, unless it is a table. -/
theorem overlay_eq_self {value : Setting} (h : ∀ members, value ≠ .table members)
    (old : Option Setting) : overlay old value = value := by
  cases value with
  | table members => exact absurd rfl (h members)
  | _ =>
      rw [overlay]
      exact nofun

theorem ofVariable_ne_table (text : String) (members : List (String × Setting)) :
    ofVariable text ≠ .table members := by
  rw [ofVariable]
  repeat' split
  all_goals exact nofun

theorem overlayAll_table (entries members : List (String × Setting)) :
    ∃ result, overlayAll (.table entries) members = .table result := by
  induction members generalizing entries with
  | nil => exact ⟨entries, by rw [overlayAll]⟩
  | cons m rest ih =>
      obtain ⟨name, value⟩ := m
      rw [overlayAll]
      exact ih _

/-- Whether nothing is read from a table. -/
def Scalar {α : Type} (decode : Setting → Option α) : Prop :=
  ∀ members, decode (.table members) = none

/-- **What is set where nothing was is read as it was set.** -/
theorem Scalar.decode_overlay {α : Type} {decode : Setting → Option α} (h : Scalar decode)
    (value : Setting) : decode (overlay none value) = decode value := by
  cases value with
  | table members =>
      obtain ⟨result, hresult⟩ := overlayAll_table [] members
      rw [overlay, Option.getD_none, hresult, h, h]
  | _ =>
      rw [overlay_eq_self]
      exact fun _ => nofun

theorem scalar_toCount? : Scalar toCount? := fun _ => rfl

theorem scalar_toReal? : Scalar toReal? := fun _ => rfl

theorem scalar_toText? : Scalar toText? := fun _ => rfl

theorem Scalar.map {α β : Type} {decode : Setting → Option α} (h : Scalar decode) (f : α → β) :
    Scalar fun s => (decode s).map f := fun members => by
  simp only [h members, Option.map_none]

theorem Scalar.toOption? {α : Type} {decode : Setting → Option α} (h : Scalar decode) :
    Scalar (toOption? decode) := fun members => by
  rw [Setting.toOption?, h members, Option.map_none]
  exact nofun

end Setting

/-! ## 5.  The file -/

namespace SettingsFormat

theorem mem_all (format : SettingsFormat) : format ∈ all := by
  cases format <;> decide

end SettingsFormat

namespace SettingsFormats

variable {formats : SettingsFormats} {files : FileTree} {path : Path}

end SettingsFormats

/-! ## 6.  The fields -/

namespace TrainerSettings

open SettingsLayer (Members AreKeys AreVariables)

/-- What a path is read from. -/
def path? (s : Setting) : Option Path := s.toText?.map Path.mk

/-- The value of a field: as it is read from what is said of it, and the default if nothing
is said. -/
def resolve {α : Type} (said : Option Setting) (decode : Setting → Option α) (default : α) :
    Option α :=
  match said with
  | some s => decode s
  | none => some default

/-- **Whether settings are, field by field, what is said of the field's own key.** -/
structure Resolves (said : String → Option Setting) (s : TrainerSettings) : Prop where
  databaseUrl :
    resolve (said "database_url") Setting.toText? standard.databaseUrl = some s.databaseUrl
  lookbackSeconds :
    resolve (said "lookback_window_secs") Setting.toCount? standard.lookbackSeconds
      = some s.lookbackSeconds
  toleranceSeconds :
    resolve (said "metric_tolerance_secs") Setting.toCount? standard.toleranceSeconds
      = some s.toleranceSeconds
  timeoutSeconds :
    resolve (said "query_timeout_secs") Setting.toCount? standard.timeoutSeconds
      = some s.timeoutSeconds
  artifactDir :
    resolve (said "artifact_dir") path? standard.artifactDir = some s.artifactDir
  servingManifest :
    resolve (said "serving_manifest_path") (Setting.toOption? path?) standard.servingManifest
      = some s.servingManifest
  metricsTextfile :
    resolve (said "metrics_textfile") (Setting.toOption? path?) standard.metricsTextfile
      = some s.metricsTextfile
  epochs : resolve (said "epochs") Setting.toCount? standard.epochs = some s.epochs
  learningRate :
    resolve (said "learning_rate") Setting.toReal? standard.learningRate = some s.learningRate
  weightDecay :
    resolve (said "weight_decay") Setting.toReal? standard.weightDecay = some s.weightDecay
  validationEvery :
    resolve (said "validation_every") Setting.toCount? standard.validationEvery
      = some s.validationEvery

/-- The keys that are known. -/
def knownKeys : List String :=
  ["database_url", "lookback_window_secs", "metric_tolerance_secs", "query_timeout_secs",
    "artifact_dir", "serving_manifest_path", "metrics_textfile", "epochs", "learning_rate",
    "weight_decay", "validation_every"]

theorem isKey_of_mem_knownKeys : ∀ key ∈ knownKeys, SettingsLayer.IsKey key := by
  decide +kernel

/-- **The settings of a table are those of its eleven members.** -/
theorem ofTable?_eq_some_iff {table : Setting} {s : TrainerSettings} :
    ofTable? table = some s ↔ Resolves table.member? s := by
  simp only [ofTable?, bind, Option.bind_eq_some_iff, Option.some.injEq]
  constructor
  · rintro ⟨_, h₁, _, h₂, _, h₃, _, h₄, _, h₅, _, h₆, _, h₇, _, h₈, _, h₉, _, h₁₀, _, h₁₁, rfl⟩
    exact ⟨h₁, h₂, h₃, h₄, h₅, h₆, h₇, h₈, h₉, h₁₀, h₁₁⟩
  · rintro ⟨h₁, h₂, h₃, h₄, h₅, h₆, h₇, h₈, h₉, h₁₀, h₁₁⟩
    exact ⟨_, h₁, _, h₂, _, h₃, _, h₄, _, h₅, _, h₆, _, h₇, _, h₈, _, h₉, _, h₁₀, _, h₁₁, rfl⟩

/-- Fields are read from known keys, and none of them from a table. -/
theorem Resolves.of_agrees {said told : String → Option Setting} {s : TrainerSettings}
    (h : ∀ key ∈ knownKeys, ∀ {α : Type} {decode : Setting → Option α} (default : α),
      Setting.Scalar decode → resolve (told key) decode default = resolve (said key) decode default)
    (hs : Resolves said s) : Resolves told s := by
  have hpath : Setting.Scalar path? := Setting.scalar_toText?.map _
  constructor
  · exact (h _ (by decide) _ Setting.scalar_toText?).trans hs.databaseUrl
  · exact (h _ (by decide) _ Setting.scalar_toCount?).trans hs.lookbackSeconds
  · exact (h _ (by decide) _ Setting.scalar_toCount?).trans hs.toleranceSeconds
  · exact (h _ (by decide) _ Setting.scalar_toCount?).trans hs.timeoutSeconds
  · exact (h _ (by decide) _ hpath).trans hs.artifactDir
  · exact (h _ (by decide) _ hpath.toOption?).trans hs.servingManifest
  · exact (h _ (by decide) _ hpath.toOption?).trans hs.metricsTextfile
  · exact (h _ (by decide) _ Setting.scalar_toCount?).trans hs.epochs
  · exact (h _ (by decide) _ Setting.scalar_toReal?).trans hs.learningRate
  · exact (h _ (by decide) _ Setting.scalar_toReal?).trans hs.weightDecay
  · exact (h _ (by decide) _ Setting.scalar_toCount?).trans hs.validationEvery

/-- The answer that a table gives. -/
def answerOf (table : Setting) : Except SettingsFault TrainerSettings :=
  match ofTable? table with
  | none => .error .invalid
  | some settings => .ok settings

theorem answerOf_eq_ok_iff {table : Setting} {s : TrainerSettings} :
    answerOf table = .ok s ↔ Resolves table.member? s := by
  rw [answerOf, ← ofTable?_eq_some_iff]
  cases ofTable? table <;> simp

theorem answerOf_ne_unreadable (table : Setting) : answerOf table ≠ .error .unreadable := by
  rw [answerOf]
  cases ofTable? table <;> simp

/-! ## 7.  Both layers -/

/-- What is said of a key: by its variable, and else by the file. -/
def said (env : Environment) (members : Members) (key : String) : Option Setting :=
  ((env.lookup (SettingsLayer.variableName key)).map Setting.ofVariable).or
    ((SettingsLayer.lastOf members key).map Setting.ofJson)

/-- Whether the file of settings holds the members of a document; without a file there are
none. -/
inductive HoldsMembers (formats : SettingsFormats) (files : FileTree) :
    Option Path → Members → Prop where
  | unnamed : HoldsMembers formats files none []
  | named {path found : Path} {text : String} {members : Members}
      (hfound : formats.locate? files path = some (found, .json))
      (htext : files.readText found = .ok text)
      (hobject : Json.readStrict? text = some (.object members)) :
      HoldsMembers formats files (some path) members

/-- Whether settings come from variables and a file of members, both spelled as they are
meant to be. -/
structure AreSources (formats : SettingsFormats) (files : FileTree) (file : Option Path)
    (env : Environment) (members : Members) : Prop where
  names : AreVariables env
  held : HoldsMembers formats files file members
  keys : AreKeys members

section

variable {formats formats' : SettingsFormats} {files files' : FileTree} {file file' : Option Path}
  {env env' : Environment} {members members' : Members}

theorem AreSources.ofSources?_eq (h : AreSources formats files file env members) :
    ofSources? files file env formats
      = (SettingsLayer.putInto? (Setting.membersOfJson [] members
          ++ SettingsLayer.ofEnvironment env) (.table [])).map answerOf := by
  cases h.held with
  | unnamed => rw [Setting.membersOfJson]; rfl
  | named hfound htext hobject =>
      have hlayer := SettingsLayer.ofJson?_object h.keys
      simp only [ofSources?, SettingsFormats.ofFile?, hfound, bind, Option.bind_some,
        htext, Except.toOption, formats.read?_json, SettingsLayer.ofText?, hobject, hlayer]
      rfl

/-- The table after both layers, and what its members are read as. -/
theorem AreSources.exists_table (h : AreSources formats files file env members) :
    ∃ table,
      ofSources? files file env formats = some (answerOf table) ∧
      ∀ key ∈ knownKeys, ∀ {α : Type} {decode : Setting → Option α} (default : α),
        Setting.Scalar decode →
          resolve (table.member? key) decode default
            = resolve (said env members key) decode default := by
  have hbase := SettingsLayer.isFlat_membersOfJson h.keys SettingsLayer.isFlat_nil
  have hover := SettingsLayer.isFlat_ofEnvironment h.names
  have hkeys : ∀ s ∈ Setting.membersOfJson [] members ++ SettingsLayer.ofEnvironment env,
      SettingsLayer.IsKey s.1 :=
    fun s hs => (List.mem_append.1 hs).elim (hbase.keys s) (hover.keys s)
  have hput := SettingsLayer.putInto?_eq_putAll hkeys []
  refine ⟨_, by rw [h.ofSources?_eq, hput]; rfl, fun key hkey α decode default hscalar => ?_⟩
  have hmember : (SettingsLayer.putAll (Setting.membersOfJson [] members
        ++ SettingsLayer.ofEnvironment env) []).lookup key
      = ((env.lookup (SettingsLayer.variableName key)).map Setting.ofVariable).or
        ((SettingsLayer.lastOf members key).map
          fun j => Setting.overlay none (Setting.ofJson j)) := by
    -- The file finds nothing in the table, and a variable replaces what it finds.
    have hplain (old : Option Setting) (text : String) :
        Setting.overlay old (Setting.ofVariable text) = Setting.ofVariable text :=
      Setting.overlay_eq_self (Setting.ofVariable_ne_table text) old
    rw [SettingsLayer.putAll, List.foldl_append, ← SettingsLayer.putAll, ← SettingsLayer.putAll,
      SettingsLayer.lookup_putAll hover.nodup, SettingsLayer.lookup_putAll hbase.nodup,
      SettingsLayer.lookup_ofEnvironment h.names.names (isKey_of_mem_knownKeys key hkey),
      SettingsLayer.lookup_membersOfJson]
    simp [Option.map_map, Function.comp_def, hplain]
  rw [Setting.member?, Setting.members, hmember, said]
  cases env.lookup (SettingsLayer.variableName key) with
  | some text => rfl
  | none =>
      cases SettingsLayer.lastOf members key with
      | none => rfl
      | some j => exact hscalar.decode_overlay _

theorem AreSources.exists_answer (h : AreSources formats files file env members) :
    ∃ answer, ofSources? files file env formats = some answer ∧ answer ≠ .error .unreadable ∧
      ∀ s, answer = .ok s ↔ Resolves (said env members) s := by
  obtain ⟨table, hanswer, hread⟩ := h.exists_table
  refine ⟨_, hanswer, answerOf_ne_unreadable table, fun s => answerOf_eq_ok_iff.trans ?_⟩
  exact ⟨.of_agrees fun key hkey _ _ default hscalar => (hread key hkey default hscalar).symm,
    .of_agrees hread⟩

end

/-! ### A file beside its name, and two variables -/

end TrainerSettings
end FleetScore
