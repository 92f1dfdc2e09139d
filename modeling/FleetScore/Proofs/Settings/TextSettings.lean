import FleetScore.Proofs.Json.Codecs
import FleetScore.Proofs.Settings.LayeredSettings

/-!
# Texts in the environment

Four settings of the trainer are texts: how the database is reached, and three paths.  A variable
that holds one of them is read before it is known what it is for.  So a text that looks like a truth
value, an integer or a number becomes one, and is written out as text again when the setting asks for
a text: not as it was entered but as values are written (`Setting.respelled`).

`load?_textVariable` says what comes of it.

* The setting is the text respelled, whichever of the four it is and whatever the text.
* A text is kept exactly if it is the spelling of what it is read as, or is read as nothing else
  (`Setting.KeepsSpelling`).
* A text is kept if one of its characters stands in no number and in neither word for a truth value,
  such as the separator of a path (`Setting.isTyped`).
* A number with an idle zero is not kept: `007` becomes `7`.

Nothing of this happens to a text in the file (`load?_textMember`).  Neither does it to the variable
that names the file.
-/

namespace FleetScore

open Decimal Decimal.Entry

/-! ## 1.  Characters of what is read as something else -/

namespace Setting

/-- The letters of the names of truth values and of doubles, and of the exponent. -/
def typedLetters : List Char := ['a', 'e', 'f', 'i', 'l', 'n', 'r', 's', 't', 'u', 'y']

/-- Whether a character may stand in what is read as a truth value or a number. -/
def isTyped (c : Char) : Bool :=
  c.isDigit || c == '+' || c == '-' || c == '.' || typedLetters.contains c.toLower

theorem isTyped_of_isDigit {c : Char} (h : c.isDigit = true) : isTyped c = true := by
  simp [isTyped, h]

theorem isTyped_of_map_toLower {s name : List Char} (h : s.map Char.toLower = name)
    (hname : ∀ d ∈ name, d ∈ typedLetters) : ∀ c ∈ s, isTyped c = true := by
  intro c hc
  have hlower : c.toLower ∈ typedLetters := hname _ (h ▸ List.mem_map_of_mem hc)
  simp [isTyped, hlower]

/-- **What is read as a truth value** is one of its names in any case. -/
theorem truth?_eq_some {v : String} {b : Bool} (h : truth? v = some b) :
    v.toList.map Char.toLower = (if b then "true" else "false").toList := by
  unfold truth? at h
  split at h
  · rename_i heq
    cases h
    rw [if_pos rfl, ← heq, String.toList_ofList]
  · rename_i heq
    cases h
    rw [if_neg Bool.false_ne_true, ← heq, String.toList_ofList]
  · cases h

theorem isTyped_of_truth? {v : String} {b : Bool} (h : truth? v = some b) :
    ∀ c ∈ v.toList, isTyped c = true :=
  isTyped_of_map_toLower (truth?_eq_some h) (by cases b <;> simp [typedLetters])

theorem isTyped_of_digits? {s : List Char} {n : ℕ} (h : digits? s = some n) :
    ∀ c ∈ s, isTyped c = true := by
  unfold digits? at h
  split at h
  · rename_i hdigits
    exact fun c hc => isTyped_of_isDigit (List.all_eq_true.1 hdigits.2 c hc)
  · cases h

theorem isTyped_of_natural? {s : List Char} {n : ℕ} (h : natural? s = some n) :
    ∀ c ∈ s, isTyped c = true := by
  unfold natural? at h
  split at h
  · exact List.forall_mem_cons.2 ⟨rfl, isTyped_of_digits? h⟩
  · exact isTyped_of_digits? h

/-- An integer is read off a minus and digits, or off a natural number. -/
theorem integer?_minus (s : List Char) : integer? ('-' :: s) = (digits? s).map fun n : ℕ => -(n : ℤ) := by
  unfold integer?
  split
  · rename_i hcons
    obtain ⟨-, rfl⟩ := List.cons.inj hcons
    cases digits? s <;> rfl
  · rename_i hne
    exact absurd rfl (hne s)

theorem integer?_of_head?_ne {s : List Char} (h : s.head? ≠ some '-') :
    integer? s = (natural? s).map fun n : ℕ => (n : ℤ) := by
  unfold integer?
  split
  · exact absurd rfl h
  · cases natural? s <;> rfl

theorem isTyped_of_integer? {s : List Char} {n : ℤ} (h : integer? s = some n) :
    ∀ c ∈ s, isTyped c = true := by
  by_cases hminus : s.head? = some '-'
  · obtain ⟨rest, rfl⟩ := List.head?_eq_some_iff.1 hminus
    rw [integer?_minus] at h
    obtain ⟨_, hdigits, -⟩ := Option.map_eq_some_iff.1 h
    exact List.forall_mem_cons.2 ⟨rfl, isTyped_of_digits? hdigits⟩
  · rw [integer?_of_head?_ne hminus] at h
    obtain ⟨_, hnatural, -⟩ := Option.map_eq_some_iff.1 h
    exact isTyped_of_natural? hnatural

theorem isTyped_of_run {s : List Char} (h : ∀ c ∈ (run s).2, isTyped c = true) :
    ∀ c ∈ s, isTyped c = true := by
  intro c hc
  rw [← List.takeWhile_append_dropWhile (p := Char.isDigit) (l := s), List.mem_append] at hc
  exact hc.elim (fun hc => isTyped_of_isDigit (List.mem_takeWhile_imp hc)) (h c)

theorem isTyped_of_places {s : List Char} (h : ∀ c ∈ (places s).2, isTyped c = true) :
    ∀ c ∈ s, isTyped c = true := by
  unfold places at h
  split at h
  · exact List.forall_mem_cons.2 ⟨rfl, isTyped_of_run h⟩
  · exact h

theorem isTyped_of_exponent? {s : List Char} {e : Option ℤ} (h : exponent? s = some e) :
    ∀ c ∈ s, isTyped c = true := by
  unfold exponent? at h
  split at h
  · exact nofun
  · rename_i c rest
    split at h
    · rename_i hletter
      obtain ⟨_, hinteger, -⟩ := Option.map_eq_some_iff.1 h
      have hmem : c.toLower ∈ typedLetters := by simp [hletter, typedLetters]
      have hc : isTyped c = true := by simp [isTyped, hmem]
      exact List.forall_mem_cons.2 ⟨hc, isTyped_of_integer? hinteger⟩
    · cases h

theorem isTyped_of_numeral? {negative : Bool} {s : List Char} {n : Numeral}
    (h : numeral? negative s = some n) : ∀ c ∈ s, isTyped c = true := by
  have hexponent : ∃ e, exponent? (places (run s).2).2 = some e := by
    unfold numeral? at h
    dsimp only at h
    split at h
    · cases h
    · obtain ⟨e, he, -⟩ := Option.bind_eq_some_iff.1 h
      exact ⟨e, he⟩
  obtain ⟨e, he⟩ := hexponent
  exact isTyped_of_run (isTyped_of_places (isTyped_of_exponent? he))

theorem isTyped_of_named? {s : List Char} {x : Float} (h : named? s = some x) :
    ∀ c ∈ s, isTyped c = true := by
  unfold named? at h
  split at h
  case h_4 => cases h
  all_goals
    rename_i heq
    refine isTyped_of_map_toLower (String.toList_ofList.symm.trans (congrArg String.toList heq)) ?_
    simp [typedLetters]

theorem isTyped_of_unsigned? {negative : Bool} {s : List Char} {x : Float}
    (h : unsigned? negative s = some x) : ∀ c ∈ s, isTyped c = true := by
  unfold unsigned? at h
  split at h
  · rename_i hnumeral
    exact isTyped_of_numeral? hnumeral
  · obtain ⟨_, hnamed, -⟩ := Option.map_eq_some_iff.1 h
    exact isTyped_of_named? hnamed

theorem isTyped_of_real? {s : List Char} {x : Float} (h : real? s = some x) :
    ∀ c ∈ s, isTyped c = true := by
  unfold real? at h
  split at h
  · exact List.forall_mem_cons.2 ⟨rfl, isTyped_of_unsigned? h⟩
  · exact List.forall_mem_cons.2 ⟨rfl, isTyped_of_unsigned? h⟩
  · exact isTyped_of_unsigned? h

/-! ## 2.  Integers -/

theorem truth?_of_isDigit {v : String} {c : Char} (hc : c ∈ v.toList) (hdigit : c.isDigit = true) :
    truth? v = none := by
  refine Option.eq_none_iff_forall_ne_some.2 fun b h => ?_
  have hlower : c.toLower ∈ (if b then "true" else "false").toList :=
    truth?_eq_some h ▸ List.mem_map_of_mem hc
  have hname : c.isDigit = true → c.toLower ∉ (if b then "true" else "false").toList :=
    SettingsLayer.of_ascii (P := fun c => c.isDigit = true → c.toLower ∉ _)
      (by cases b <;> decide +kernel) (SettingsLayer.toNat_lt_of_isDigit hdigit)
  exact hname hdigit hlower

theorem digits?_eq_some {ds : List Char} (hne : ds ≠ []) (hdigits : ∀ c ∈ ds, c.isDigit = true) :
    digits? ds = some (ofDigits ds) := by
  rw [digits?, if_pos ⟨hne, List.all_eq_true.2 hdigits⟩]

/-- Digits are read as the number they spell, idle zeros or not. -/
theorem integer?_digits {ds : List Char} (hne : ds ≠ []) (hdigits : ∀ c ∈ ds, c.isDigit = true) :
    integer? ds = some (ofDigits ds : ℤ) := by
  have hhead {c : Char} (hc : c.isDigit = false) : ds.head? ≠ some c := by
    intro h
    rw [hdigits c (List.mem_of_mem_head? h)] at hc
    cases hc
  have hnatural : natural? ds = digits? ds := by
    unfold natural?
    split
    · exact absurd rfl (hhead rfl)
    · rfl
  rw [integer?_of_head?_ne (hhead rfl), hnatural, digits?_eq_some hne hdigits]
  rfl

/-- **An integer is read back from its text.** -/
theorem integer?_intText (n : ℤ) : integer? (intText n).toList = some n := by
  have hdigits : ∀ c ∈ digits n.natAbs, c.isDigit = true := fun _ => isDigit_of_mem_digits
  rw [intText]
  split
  · rw [String.toList_append, natText, String.toList_ofList, String.toList_ofList]
    show integer? ('-' :: digits n.natAbs) = some n
    rw [integer?_minus, digits?_eq_some (digits_ne_nil _) hdigits, ofDigits_digits]
    exact congrArg some (show -(n.natAbs : ℤ) = n by omega)
  · rw [natText, String.toList_ofList, integer?_digits (digits_ne_nil _) hdigits, ofDigits_digits]
    exact congrArg some (by omega)

theorem exists_digit_intText (n : ℤ) : ∃ c ∈ (intText n).toList, c.isDigit = true := by
  obtain ⟨c, hc⟩ := List.exists_mem_of_ne_nil _ (digits_ne_nil n.natAbs)
  refine ⟨c, ?_, isDigit_of_mem_digits hc⟩
  rw [intText]
  split
  · rw [String.toList_append, natText, String.toList_ofList, String.toList_ofList]
    exact List.mem_append_right _ hc
  · rwa [natText, String.toList_ofList]

theorem read_intText (n : Int64) :
    truth? (intText n.toInt) = none ∧ int64? (intText n.toInt) = some n := by
  obtain ⟨c, hc, hdigit⟩ := exists_digit_intText n.toInt
  refine ⟨truth?_of_isDigit hc hdigit, ?_⟩
  rw [int64?, integer?_intText]
  exact Word.int64?_toInt n

/-! ## 3.  Texts that are kept -/

/-- What a text becomes that is read as a value first and asked for as text then. -/
def respelled (v : String) : String :=
  match truth? v with
  | some b => if b then "true" else "false"
  | none =>
      match int64? v with
      | some n => intText n.toInt
      | none =>
          match real? v.toList with
          | some x => sampleText x
          | none => v

/-- Whether a text is the spelling of what it is read as: a truth value in small letters, an
integer without a plus and without idle zeros, a number as it is written, or a text that is read
as nothing else. -/
inductive KeepsSpelling : String → Prop where
  | truth (b : Bool) : KeepsSpelling (if b then "true" else "false")
  | integer (n : Int64) : KeepsSpelling (intText n.toInt)
  | number {v : String} {x : Float} (htruth : truth? v = none) (hinteger : int64? v = none)
      (hreal : real? v.toList = some x) (hspelled : sampleText x = v) : KeepsSpelling v
  | text {v : String} (htruth : truth? v = none) (hinteger : int64? v = none)
      (hreal : real? v.toList = none) : KeepsSpelling v

theorem toText?_ofVariable (v : String) : (ofVariable v).toText? = some (respelled v) := by
  rw [ofVariable, respelled]
  cases truth? v with
  | some b => rfl
  | none =>
      cases int64? v with
      | some n => rfl
      | none => cases real? v.toList <;> rfl

/-- **Which texts are kept.** -/
theorem respelled_eq_self_iff {v : String} : respelled v = v ↔ KeepsSpelling v := by
  constructor
  · intro h
    rw [respelled] at h
    cases htruth : truth? v with
    | some b =>
        rw [htruth] at h
        exact h ▸ .truth b
    | none =>
        cases hinteger : int64? v with
        | some n =>
            rw [htruth, hinteger] at h
            exact h ▸ .integer n
        | none =>
            cases hreal : real? v.toList with
            | some x =>
                rw [htruth, hinteger, hreal] at h
                exact .number htruth hinteger hreal h
            | none => exact .text htruth hinteger hreal
  · intro h
    cases h with
    | truth b => cases b <;> decide +kernel
    | integer n =>
        obtain ⟨htruth, hinteger⟩ := read_intText n
        rw [respelled, htruth, hinteger]
    | number htruth hinteger hreal hspelled => rw [respelled, htruth, hinteger, hreal]; exact hspelled
    | text htruth hinteger hreal => rw [respelled, htruth, hinteger, hreal]

/-- **A text is kept that has a character of no number and no truth value.** -/
theorem respelled_of_not_isTyped {v : String} {c : Char} (hc : c ∈ v.toList)
    (hnot : isTyped c = false) : respelled v = v := by
  have hne {α : Type} {o : Option α} (h : ∀ a, o = some a → ∀ c ∈ v.toList, isTyped c = true) :
      o = none :=
    Option.eq_none_iff_forall_ne_some.2 fun a ha => by
      rw [h a ha c hc] at hnot
      cases hnot
  have hinteger : int64? v = none := hne fun n hn => by
    obtain ⟨_, hread, -⟩ := Option.bind_eq_some_iff.1 hn
    exact isTyped_of_integer? hread
  exact respelled_eq_self_iff.2
    (.text (hne fun _ => isTyped_of_truth?) hinteger (hne fun _ => isTyped_of_real?))

/-- **A number loses its idle zeros**, all of them. -/
theorem respelled_zeros_append {k n : ℕ} (hn : n < Word.signedBound) :
    respelled (String.ofList (List.replicate k '0') ++ natText n) = natText n := by
  have hlist : (String.ofList (List.replicate k '0') ++ natText n).toList =
      List.replicate k '0' ++ digits n := by
    rw [String.toList_append, natText, String.toList_ofList, String.toList_ofList]
  have hne : List.replicate k '0' ++ digits n ≠ [] :=
    List.append_ne_nil_of_right_ne_nil _ (digits_ne_nil n)
  have hdigits : ∀ c ∈ List.replicate k '0' ++ digits n, c.isDigit = true := by
    intro c hc
    obtain hc | hc := List.mem_append.1 hc
    · rw [List.eq_of_mem_replicate hc]
      rfl
    · exact isDigit_of_mem_digits hc
  obtain ⟨c, hc⟩ := List.exists_mem_of_ne_nil _ hne
  have htruth : truth? (String.ofList (List.replicate k '0') ++ natText n) = none :=
    truth?_of_isDigit (hlist.symm ▸ hc) (hdigits c hc)
  have hread : integer? (String.ofList (List.replicate k '0') ++ natText n).toList = some (n : ℤ) := by
    rw [hlist, integer?_digits hne hdigits, ofDigits_replicate_append, ofDigits_digits]
  have hfits : -(Word.signedBound : ℤ) ≤ n ∧ (n : ℤ) < Word.signedBound := by omega
  have hinteger : int64? (String.ofList (List.replicate k '0') ++ natText n) =
      some (Int64.ofInt n) :=
    Option.bind_eq_some_iff.2 ⟨n, hread, by rw [Word.int64?, if_pos hfits]⟩
  have hword : (Int64.ofInt n).toInt = n := by
    rw [Word.signedBound] at hn
    exact Int64.toInt_ofInt_of_le (by omega) (by omega)
  rw [respelled, htruth, hinteger]
  show intText (Int64.ofInt n).toInt = natText n
  rw [hword, intText, if_neg (by omega), Int.natAbs_natCast]

theorem natText_ne_zeros_append (k n : ℕ) :
    natText n ≠ String.ofList (List.replicate (k + 1) '0') ++ natText n := by
  intro h
  have hlength := congrArg (fun s : String => s.toList.length) h
  simp at hlength

end Setting

/-! ## 4.  The text settings -/

namespace TrainerSettings

open SettingsLayer (IsKey Members AreVariables variableName)

/-- The settings that are texts. -/
inductive TextField where
  | databaseUrl
  | artifactDir
  | servingManifest
  | metricsTextfile
  deriving DecidableEq, Repr

namespace TextField

/-- The name of a text setting in the file. -/
def key : TextField → String
  | databaseUrl => "database_url"
  | artifactDir => "artifact_dir"
  | servingManifest => "serving_manifest_path"
  | metricsTextfile => "metrics_textfile"

/-- The variable that holds it. -/
def envName : TextField → String
  | databaseUrl => "TRAINER_DATABASE_URL"
  | artifactDir => "TRAINER_ARTIFACT_DIR"
  | servingManifest => "TRAINER_SERVING_MANIFEST_PATH"
  | metricsTextfile => "TRAINER_METRICS_TEXTFILE"

/-- The settings with this one set to a text. -/
def put (text : String) (s : TrainerSettings) : TextField → TrainerSettings
  | databaseUrl => { s with databaseUrl := text }
  | artifactDir => { s with artifactDir := ⟨text⟩ }
  | servingManifest => { s with servingManifest := some ⟨text⟩ }
  | metricsTextfile => { s with metricsTextfile := some ⟨text⟩ }

theorem key_mem_knownKeys (field : TextField) : field.key ∈ knownKeys := by
  cases field <;> decide

theorem isKey_key (field : TextField) : IsKey field.key :=
  isKey_of_mem_knownKeys _ field.key_mem_knownKeys

theorem envName_eq (field : TextField) : field.envName = variableName field.key := by
  cases field <;> decide +kernel

end TextField

theorem path?_of_toText? {value : Setting} {text : String} (h : value.toText? = some text) :
    path? value = some ⟨text⟩ := by
  rw [path?, h]
  rfl

theorem toOption?_path? {value : Setting} {text : String} (h : value.toText? = some text) :
    Setting.toOption? path? value = some (some ⟨text⟩) := by
  have hpath := path?_of_toText? h
  cases value with
  | absent => cases h
  | _ =>
      rw [Setting.toOption?, hpath]
      · rfl
      · intro hvalue
        cases hvalue

/-- **Settings of which one text is said** and nothing else. -/
theorem resolves_put {told : String → Option Setting} {field : TextField} {value : Setting}
    {text : String} (htold : told field.key = some value) (htext : value.toText? = some text)
    (hother : ∀ key ∈ knownKeys, key ≠ field.key → told key = none) :
    Resolves told (field.put text standard) := by
  have hset {α : Type} {decode : Setting → Option α} {a : α} (h : decode value = some a)
      (default : α) : resolve (told field.key) decode default = some a := by
    rw [htold]
    exact h
  have hunset {α : Type} {key : String} (hkey : key ∈ knownKeys) (hne : key ≠ field.key)
      (decode : Setting → Option α) (default : α) :
      resolve (told key) decode default = some default := by
    rw [hother key hkey hne]
    rfl
  cases field with
  | databaseUrl =>
      constructor
      case databaseUrl => exact hset htext _
      all_goals exact hunset (by decide) (by decide) _ _
  | artifactDir =>
      constructor
      case artifactDir => exact hset (path?_of_toText? htext) _
      all_goals exact hunset (by decide) (by decide) _ _
  | servingManifest =>
      constructor
      case servingManifest => exact hset (toOption?_path? htext) _
      all_goals exact hunset (by decide) (by decide) _ _
  | metricsTextfile =>
      constructor
      case metricsTextfile => exact hset (toOption?_path? htext) _
      all_goals exact hunset (by decide) (by decide) _ _

theorem ofSources?_put {formats : SettingsFormats} {files : FileTree} {file : Option Path}
    {env : Environment} {members : Members} (h : AreSources formats files file env members)
    {field : TextField} {value : Setting} {text : String} (htold : said env members field.key = some value)
    (htext : value.toText? = some text)
    (hother : ∀ key ∈ knownKeys, key ≠ field.key → said env members key = none) :
    ofSources? files file env formats = some (.ok (field.put text standard)) := by
  obtain ⟨answer, hanswer, -, hok⟩ := h.exists_answer
  rw [hanswer, (hok _).2 (resolves_put htold htext hother)]

theorem areVariables_single {key : String} (h : IsKey key) (text : String) :
    AreVariables [(variableName key, text)] where
  names := List.forall_mem_singleton.2 (SettingsLayer.isVariable_variableName h)
  nodup := List.nodup_singleton _

theorem lookup_single {key other : String} (h : IsKey key) (hother : IsKey other)
    (hne : other ≠ key) (text : String) :
    [(variableName key, text)].lookup (variableName other) = none := by
  have hnames : variableName other ≠ variableName key :=
    fun heq => hne (SettingsLayer.variableName_injective hother h heq)
  rw [List.lookup_cons, beq_eq_false_iff_ne.2 hnames]
  rfl

/-- The variable that names the file is one for a key, too, but for none that is known. -/
theorem fileVariable_spec :
    IsKey "config" ∧ fileVariable = variableName "config" ∧ "config" ∉ knownKeys := by
  decide +kernel

/-- **A variable alone** sets its text as it is respelled. -/
theorem load?_envName (formats : SettingsFormats) (files : FileTree) (field : TextField)
    (v : String) : load? files [(field.envName, v)] formats =
      some (.ok (field.put (Setting.respelled v) standard)) := by
  obtain ⟨hconfig, hfile, hunknown⟩ := fileVariable_spec
  have hsources : AreSources formats files none [(variableName field.key, v)] [] :=
    ⟨areVariables_single field.isKey_key v, .unnamed, nofun⟩
  have hunnamed : [(variableName field.key, v)].lookup fileVariable = none := by
    have hne : "config" ≠ field.key := fun heq => hunknown (heq ▸ field.key_mem_knownKeys)
    rw [hfile]
    exact lookup_single field.isKey_key hconfig hne v
  have hset : said [(variableName field.key, v)] [] field.key = some (Setting.ofVariable v) := by
    rw [said, List.lookup_cons_self]
    rfl
  have hother : ∀ key ∈ knownKeys, key ≠ field.key →
      said [(variableName field.key, v)] [] key = none := by
    intro key hkey hne
    rw [said, lookup_single field.isKey_key (isKey_of_mem_knownKeys key hkey) hne]
    rfl
  rw [field.envName_eq, load?, hunnamed]
  exact ofSources?_put hsources hset (Setting.toText?_ofVariable v) hother

/-- **A text alone in the file is kept as it is**, whatever it looks like, and so is the variable that
names the file. -/
theorem load?_textMember {formats : SettingsFormats} {files : FileTree} {path : String}
    {field : TextField} {v : String}
    (h : HoldsMembers formats files (some ⟨path⟩) [(some field.key, .string (some v))]) :
    load? files [(fileVariable, path)] formats = some (.ok (field.put v standard)) := by
  obtain ⟨hconfig, hfile, hunknown⟩ := fileVariable_spec
  have hsources : AreSources formats files (some ⟨path⟩) [(variableName "config", path)]
      [(some field.key, .string (some v))] :=
    ⟨areVariables_single hconfig path, h, List.forall_mem_singleton.2
      ⟨field.key, rfl, field.isKey_key⟩⟩
  have hunset : ∀ key ∈ knownKeys,
      [(variableName "config", path)].lookup (variableName key) = none := fun key hkey =>
    lookup_single hconfig (isKey_of_mem_knownKeys key hkey) (fun heq => hunknown (heq ▸ hkey)) path
  have hset : said [(variableName "config", path)] [(some field.key, .string (some v))] field.key =
      some (.text v) := by
    rw [said, hunset _ field.key_mem_knownKeys, SettingsLayer.lastOf_cons, if_pos rfl]
    show some (Setting.ofJson (.string (some v))) = _
    rw [Setting.ofJson]
  have hother : ∀ key ∈ knownKeys, key ≠ field.key →
      said [(variableName "config", path)] [(some field.key, .string (some v))] key = none := by
    intro key hkey hne
    have hkeys : some field.key ≠ some key := fun heq => hne (Option.some.inj heq).symm
    rw [said, hunset key hkey, SettingsLayer.lastOf_cons, if_neg hkeys]
    rfl
  rw [hfile, load?, hfile, List.lookup_cons_self]
  exact ofSources?_put hsources hset rfl hother

/-- **What becomes of a text in the environment**: whichever of the four settings it is for, it is
set respelled.  It is kept exactly if it is the spelling of what it is read as, and in particular if
it has a character of no number and no truth value; a number with idle zeros is never kept. -/
theorem load?_textVariable (formats : SettingsFormats) (files : FileTree) (field : TextField)
    (v : String) :
    load? files [(field.envName, v)] formats =
        some (.ok (field.put (Setting.respelled v) standard)) ∧
      (Setting.respelled v = v ↔ Setting.KeepsSpelling v) ∧
      ((∃ c ∈ v.toList, Setting.isTyped c = false) → Setting.respelled v = v) ∧
      ∀ k n, n < Word.signedBound → v = String.ofList (List.replicate (k + 1) '0') ++ natText n →
        Setting.respelled v = natText n ∧ Setting.respelled v ≠ v := by
  refine ⟨load?_envName formats files field v, Setting.respelled_eq_self_iff,
    fun ⟨_, hc, hnot⟩ => Setting.respelled_of_not_isTyped hc hnot, ?_⟩
  rintro k n hn rfl
  have hzeros := Setting.respelled_zeros_append (k := k + 1) hn
  exact ⟨hzeros, hzeros.trans_ne (Setting.natText_ne_zeros_append k n)⟩

/-- The directory `007` is taken for another one; below a directory it would be the one that was
meant. -/
theorem load?_textVariable_days :
    load? ⟨[]⟩ [("TRAINER_ARTIFACT_DIR", "007")] =
        some (.ok { standard with artifactDir := ⟨"7"⟩ }) ∧
      load? ⟨[]⟩ [("TRAINER_ARTIFACT_DIR", "days/007")] =
        some (.ok { standard with artifactDir := ⟨"days/007"⟩ }) := by
  obtain ⟨hplain, -, -, hzeros⟩ := load?_textVariable .jsonOnly ⟨[]⟩ .artifactDir "007"
  obtain ⟨hbelow, -, hkept, -⟩ := load?_textVariable .jsonOnly ⟨[]⟩ .artifactDir "days/007"
  rw [(hzeros 1 7 (by decide) (by decide)).1] at hplain
  rw [hkept ⟨'/', by decide, by decide⟩] at hbelow
  exact ⟨hplain, hbelow⟩

end TrainerSettings
end FleetScore
