import FleetScore.Proofs.Json.Records
import FleetScore.Manifest.FeatureManifest

/-!
# Manifests that are written are read back

Every manifest has a text, whatever its names and versions hold, and the text is read as the
manifest, the instant of writing settled (`ofText_text`).  No manifest is mistaken for a bare list
of names: it is written as an object, and the record is tried first.
-/

namespace FleetScore
namespace FeatureManifest

/-- A manifest with the instant of writing as it is read back. -/
def settled (m : FeatureManifest) : FeatureManifest :=
  { m with generatedAt := m.generatedAt.map Instant.settled }

/-- The fields of a manifest are found in its record, those that were left out as `null`. -/
theorem fields?_toJson (m : FeatureManifest) :
    m.toJson.fields? fields = some [
      Json.list Json.text m.features,
      Json.optional Json.text m.labelVersion,
      Json.optional Json.text m.modelSha256,
      Json.optional (fun t => Json.text (Timestamp.text t)) m.generatedAt] := by
  obtain ⟨features, _ | label, _ | digest, _ | written⟩ := m <;> rfl

/-- **A manifest is read back from its record.** -/
theorem ofRecord?_toJson (m : FeatureManifest) : ofRecord? m.toJson = some m.settled := by
  have hwritten : (Json.optional (fun t => Json.text (Timestamp.text t)) m.generatedAt).toOption?
      Json.toInstant? = some (m.generatedAt.map Instant.settled) :=
    Json.toOption?_optional (fun t _ => Json.toInstant?_text t) (fun t _ => by simp [Json.text])
  rw [ofRecord?, fields?_toJson]
  simp only [Option.bind_eq_bind, Option.bind_some, Json.toList?_texts, Json.toOption?_optionalText,
    hwritten]
  rfl

theorem mem_members {m : FeatureManifest} {member : String × Json}
    (h : member ∈ ("features", Json.list Json.text m.features)
      :: (FeatureManifest.member "label_version" Json.text m.labelVersion
        ++ FeatureManifest.member "model_sha256" Json.text m.modelSha256
        ++ FeatureManifest.member "generated_at" (fun t => Json.text (Timestamp.text t))
          m.generatedAt)) :
    member.2 = Json.list Json.text m.features ∨ ∃ s, member.2 = Json.text s := by
  obtain ⟨features, _ | label, _ | digest, _ | written⟩ := m <;>
    simp only [FeatureManifest.member, List.nil_append, List.append_nil, List.cons_append,
      List.mem_cons, List.not_mem_nil, or_false] at h <;>
    rcases h with rfl | rfl | rfl | rfl <;> simp

theorem isWritable_toJson (m : FeatureManifest) : Json.IsWritable m.toJson := by
  refine Json.isWritable_record fun member hmember => ?_
  rcases mem_members hmember with h | ⟨s, h⟩
  · rw [h]
    exact Json.isWritable_list fun s _ => Json.isWritable_text s
  · rw [h]
    exact Json.isWritable_text s

theorem isStrict_toJson (m : FeatureManifest) : m.toJson.isStrict Json.depthLimit = true := by
  refine Json.isStrict_record fun member hmember => ?_
  rcases mem_members hmember with h | ⟨s, h⟩
  · rw [h]
    exact Json.isStrict_list fun s _ => Json.isStrict_text _ s
  · rw [h]
    exact Json.isStrict_text _ s

/-- **Every manifest is read back from its text**, the instant of writing settled. -/
theorem ofText_text (m : FeatureManifest) : ofText m.text = .ok m.settled := by
  have hleading := Json.leadingStrict?_pretty m.isWritable_toJson m.isStrict_toJson
  have hrecord : ofJson? m.toJson = some m.settled := by
    rw [ofJson?, ofRecord?_toJson]
  rw [ofText, text, hleading]
  simp only [hrecord]
  rfl

end FeatureManifest
end FleetScore
