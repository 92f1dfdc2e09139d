import FleetScore.Proofs.Json.CompactLayout
import FleetScore.Proofs.Manifest.ManifestText

/-!
# Two layouts of a manifest

A manifest is written as a record, and a bare list of names will do as well.  Which of the two a
text is, is not written in it: it is tried as a record first, and a record may be an array of its
fields.  So one has to know that the two are never confused, and that none of the two is refused.

A list of names is no record.  The first field of a record is a list, the first item of a list of
names is a text, and a list without items has no first field at all (`ofRecord?_names`).  So what a
text is read as depends on the tree that stands in it, and on nothing else about the text
(`ofText_eq_ok_iff`); and `IsManifest` says of a tree in so many words which manifest it is.

From this and `ManifestText` it follows that both layouts are read as what they were written for
(`ofText_written`), whatever characters the names have.
-/

namespace FleetScore

open Json (LaysOut AreBlank)

/-! ## 1.  Lists of texts -/

theorem Json.isWritable_texts (names : List String) :
    Json.IsWritable (Json.list Json.text names) :=
  Json.isWritable_list fun name _ => Json.isWritable_text name

theorem Json.isStrict_texts (depth : Nat) (names : List String) :
    (Json.list Json.text names).isStrict (depth + 1) = true :=
  Json.isStrict_list fun name _ => Json.isStrict_text depth name

theorem Json.eq_map_text_of_mapM {items : List Json} {names : List String}
    (h : items.mapM Json.toText? = some names) : items = names.map Json.text := by
  induction items generalizing names with
  | nil =>
    obtain rfl := Option.some.inj h
    rfl
  | cons item items ih =>
    rw [List.mapM_cons] at h
    obtain ⟨name, hname, h⟩ := Option.bind_eq_some_iff.mp h
    obtain ⟨rest, hrest, h⟩ := Option.bind_eq_some_iff.mp h
    obtain rfl := Option.some.inj h
    cases item with
    | string content =>
      obtain rfl : content = some name := hname
      rw [List.map_cons, ih hrest]
      rfl
    | _ => cases hname

theorem Json.toList?_toText?_eq_some_iff {j : Json} {names : List String} :
    j.toList? Json.toText? = some names ↔ j = Json.list Json.text names := by
  constructor
  · intro h
    cases j with
    | array items =>
      rw [Json.eq_map_text_of_mapM h]
      rfl
    | _ => cases h
  · rintro rfl
    exact Json.toList?_texts names

namespace FeatureManifest

/-- **A list of names is no record.** -/
theorem ofRecord?_names (names : List String) : ofRecord? (Json.list Json.text names) = none := by
  cases names with
  | nil => rfl
  | cons name names =>
    have hfields : (Json.list Json.text (name :: names)).fields? fields =
        (Json.arrayFields? fields.tail (names.map Json.text)).map (Json.text name :: ·) := rfl
    rw [ofRecord?, hfields]
    -- whatever the other fields are, the first is no list
    cases Json.arrayFields? fields.tail (names.map Json.text) with
    | none => rfl
    | some others => rcases others with _ | ⟨_, _ | ⟨_, _ | ⟨_, _ | ⟨_, _⟩⟩⟩⟩ <;> rfl

/-! ## 2.  Manifests in a tree -/

/-- Whether a tree is a manifest: a record, or a list of names. -/
inductive IsManifest : Json → FeatureManifest → Prop where
  | record {j : Json} {m : FeatureManifest} (h : ofRecord? j = some m) : IsManifest j m
  | names (names : List String) : IsManifest (Json.list Json.text names) (ofNames names)

theorem ofJson?_eq_some_iff {j : Json} {m : FeatureManifest} :
    ofJson? j = some m ↔ IsManifest j m := by
  rw [ofJson?]
  constructor
  · intro h
    cases hrecord : ofRecord? j with
    | some m' =>
      rw [hrecord] at h
      obtain rfl := Option.some.inj h
      exact .record hrecord
    | none =>
      rw [hrecord] at h
      obtain ⟨names, hnames, rfl⟩ := Option.map_eq_some_iff.mp h
      rw [Json.toList?_toText?_eq_some_iff.mp hnames]
      exact .names names
  · intro h
    cases h with
    | record h => rw [h]
    | names names =>
      rw [ofRecord?_names]
      show (Json.toList? Json.toText? _).map ofNames = _
      rw [Json.toList?_texts]
      rfl

/-- **A text is read as a manifest exactly if it is a strict document of it.** -/
theorem ofText_eq_ok_iff {text : String} {m : FeatureManifest} :
    ofText text = .ok m ↔ ∃ j, Json.readStrict? text = some j ∧ IsManifest j m := by
  simp only [Json.readStrict?_eq_some_iff, ← ofJson?_eq_some_iff]
  rw [ofText]
  constructor
  · intro h
    split at h
    · cases h
    · rename_i j rest hleading
      split at h
      · cases h
      · rename_i m' hm'
        split at h
        · rename_i hend
          obtain rfl := Except.ok.inj h
          exact ⟨j, ⟨rest, hleading, hend⟩, hm'⟩
        · cases h
  · rintro ⟨j, ⟨rest, hleading, hend⟩, hm⟩
    rw [hleading]
    simp only [hm, hend, if_true]

/-! ## 3.  What is written is read -/

/-- **Both layouts are read as what they were written for.**  Let the instant of writing of a
manifest be no leap second.

* The text of the manifest is read as the manifest, and so is every strict document with its record.
* The compact and the pretty text of a list of names are read as the manifest of the names, and so
  is every strict document with that list, however its characters are escaped and whatever blanks
  stand in it. -/
theorem ofText_written {m : FeatureManifest} (hwritten : ∀ t ∈ m.generatedAt, t.nano < 1000000000)
    (names : List String) :
    ofText m.text = .ok m ∧
      (∀ text, Json.readStrict? text = some m.toJson → ofText text = .ok m) ∧
      ofText (Json.list Json.text names).compact = .ok (ofNames names) ∧
      ofText (Json.list Json.text names).pretty = .ok (ofNames names) ∧
      ∀ text, Json.readStrict? text = some (Json.list Json.text names) →
        ofText text = .ok (ofNames names) := by
  have hsettled : m.settled = m := by
    have hmap : m.generatedAt.map Instant.settled = m.generatedAt := by
      cases hinstant : m.generatedAt with
      | none => rfl
      | some t => rw [Option.map_some, Timestamp.settled_of_nano_lt (hwritten t hinstant)]
    rw [settled, hmap]
  have hrecord : ∀ text, Json.readStrict? text = some m.toJson → ofText text = .ok m := by
    intro text hread
    have hm := ofRecord?_toJson m
    rw [hsettled] at hm
    exact ofText_eq_ok_iff.mpr ⟨_, hread, .record hm⟩
  have hnames : ∀ text, Json.readStrict? text = some (Json.list Json.text names) →
      ofText text = .ok (ofNames names) :=
    fun text hread => ofText_eq_ok_iff.mpr ⟨_, hread, .names names⟩
  obtain ⟨-, hmanifest⟩ := Json.readStrict?_written m.isWritable_toJson m.isStrict_toJson
  obtain ⟨hcompact, hpretty⟩ :=
    Json.readStrict?_written (Json.isWritable_texts names) (Json.isStrict_texts _ names)
  exact ⟨hrecord _ hmanifest, hrecord, hnames _ hcompact, hnames _ hpretty, hnames⟩

/-- A manifest whose names and version need every kind of escape, or none, written within a
second. -/
def sampleManifest : FeatureManifest where
  features := ["cpu \"usage\"", "a\\b", "tab\tnull\x00bell\x07", "é😀", "a\\b", ""]
  labelVersion := some "\n"
  modelSha256 := none
  generatedAt := some ⟨1704067201, 1500000, by decide, by decide, by decide⟩

/-- The sample manifest is read back from its text, and so are its names alone. -/
theorem ofText_written_sampleManifest :
    ofText sampleManifest.text = .ok sampleManifest ∧
      ofText (Json.list Json.text sampleManifest.features).compact =
        .ok (ofNames sampleManifest.features) := by
  have hwritten : ∀ t ∈ sampleManifest.generatedAt, t.nano < 1000000000 := by
    intro t ht
    obtain rfl := Option.some.inj ht
    decide
  obtain ⟨hmanifest, -, hnames, -⟩ := ofText_written hwritten sampleManifest.features
  exact ⟨hmanifest, hnames⟩

end FeatureManifest
end FleetScore
