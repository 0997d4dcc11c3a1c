import FeatureStore.Job.Materialize
import FeatureStore.Job.Source
import FeatureStore.Job.TrainingSet
import FeatureStore.Job.Transformation
import FeatureStore.Offline.Postgres.Config
import FeatureStore.Online.Redis.Config
import FeatureStore.Proofs.Json.Decode

/-!
Every configuration reads back from its payload. The kind of a backend comes back as the one of its
name, everything else as it was.
-/
namespace FeatureStore
open Json (Decoder Format Reads)

theorem SerializedConfig.format : Format 1 SerializedConfig.toJson SerializedConfig.decoder :=
  .mapped (.list .byte) fun _ => rfl

theorem WordSize.ofNatural (n : WordSize) : ofInt? n.val = some n := by
  have small := n.val_lt
  have bounds : (0 : Int) ≤ n.val ∧ (n.val : Int) < 18446744073709551616 := by omega
  exact dif_pos bounds

theorem WordSize.format : Format 0 WordSize.toJson WordSize.decoder where
  floatFree _ := rfl
  read n _ _ := by
    unfold decoder toJson
    refine Json.integerRead ?_
    exact n.ofNatural

theorem ResourceType.format : Format 0 ResourceType.toJson ResourceType.decoder :=
  .oneOf fun t => by cases t <;> rfl

theorem TransformationType.format : Format 0 TransformationType.toJson TransformationType.decoder :=
  .oneOf fun t => by cases t <;> rfl

theorem ValueType.format : Format 0 ValueType.toJson ValueType.decoder :=
  .oneOf fun t => by cases t <;> rfl

theorem MaterializationId.format : Format 0 MaterializationId.toJson MaterializationId.decoder :=
  .mapped .string fun _ => rfl

theorem ResourceId.format : Format 1 ResourceId.toJson ResourceId.decoder :=
  .record "ResourceID" (fun _ => rfl) (fun _ => by simp) fun id _ room =>
    .formatted .string room id.name <|
      .formatted .string room id.variant <|
      .formatted ResourceType.format room id.type .done

theorem SourceMapping.format : Format 1 SourceMapping.toJson SourceMapping.decoder :=
  .record "SourceMapping" (fun _ => rfl) (fun _ => by simp) fun m _ room =>
    .formatted .string room m.template <|
      .formatted .string room m.source .done

theorem TransformationConfig.format :
    Format 3 TransformationConfig.toJson TransformationConfig.decoder :=
  .record "TransformationConfig" (fun _ => rfl) (fun _ => by simp) fun c _ room =>
    .formatted (TransformationType.format.wider (by decide)) room c.type <|
      .formatted (ResourceId.format.wider (by decide)) room c.target <|
      .formatted (Format.string.wider (by decide)) room c.query <|
      .listed SourceMapping.format room c.sources .done

theorem TrainingSetDef.format : Format 3 TrainingSetDef.toJson TrainingSetDef.decoder :=
  .record "TrainingSetDef" (fun _ => rfl) (fun _ => by simp) fun d _ room =>
    .formatted (ResourceId.format.wider (by decide)) room d.id <|
      .formatted (ResourceId.format.wider (by decide)) room d.label <|
      .listed ResourceId.format room d.features .done

theorem ProviderType.nameRead (t : ProviderType) (depth : Nat) :
    decoder depth (Json.Tree.ofJson t.toJson) = .ok (ofName t.name) := rfl

namespace Config

theorem decodeWritten {α : Type} [Config α] {j : Json} {y : α} (free : j.FloatFree = true)
    (read : decoder Json.maxDepth (Json.Tree.ofJson j) = .ok y) : decode α (.ofText j.text) = .ok y := by
  simp only [decode, SerializedConfig.ofText, Json.decodeText _ _ free, read]

theorem decodeEncode {α : Type} [Config α] {x y : α} (free : (toJson x).FloatFree = true)
    (read : decoder Json.maxDepth (Json.Tree.ofJson (toJson x)) = .ok y) :
    decode α (encode x) = .ok y :=
  decodeWritten free read

theorem formatRead {α : Type} [Config α] {levels : Nat}
    (format : Format levels (toJson (α := α)) decoder) (room : levels < Json.maxDepth) (x : α) :
    decode α (encode x) = .ok x :=
  decodeEncode (format.floatFree x) (format.read x Json.maxDepth room)

end Config

theorem RedisConfig.format : Format 1 RedisConfig.toJson RedisConfig.decoder :=
  .record "RedisConfig" (fun _ => rfl) (fun _ => by simp) fun c _ room =>
    .formatted .string room c.addr <|
      .formatted .string room c.password <|
      .formatted .int64 room c.db <|
      .formatted .string room c.scope <|
      .formatted WordSize.format room c.batchSize .done

theorem PostgresConfig.format : Format 1 PostgresConfig.toJson PostgresConfig.decoder :=
  .record "PostgresConfig" (fun _ => rfl) (fun _ => by simp) fun c _ room =>
    .formatted .string room c.connection <|
      .formatted WordSize.format room c.poolSize .done

theorem Config.recordRead {α : Type} [Config α] {fs : Decoder.Fields σ β} {make : β → α} {title : String}
    {x y : α} {members : List (String × Json)} {value : β} (written : toJson x = .object members)
    (known : decoder (α := α) = Decoder.record title fs make) (apart : (members.map (·.1)).Nodup)
    (reads : Reads fs 127 members value) (made : make value = y) : decode α (encode x) = .ok y := by
  subst made
  refine decodeEncode ?_ ?_
  · rw [written]
    exact reads.floatFree
  · rw [written, known]
    exact Json.recordRead rfl reads apart title make

theorem TransformationJob.readBack (c : TransformationJob) :
    Config.decode TransformationJob (Config.encode c) =
      .ok { c with offlineType := .ofName c.offlineType.name } := by
  refine Config.recordRead rfl rfl (by simp) (?_ : Reads _ 127 _
    (ProviderType.ofName c.offlineType.name, c.offlineConfig, c.transformation, c.isUpdate, ())) rfl
  exact .field rfl (c.offlineType.nameRead 127) <|
    .formatted SerializedConfig.format (by decide) c.offlineConfig <|
    .formatted TransformationConfig.format (by decide) c.transformation <|
    .formatted .bool (by decide) c.isUpdate .done

theorem TrainingSetConfig.readBack (c : TrainingSetConfig) :
    Config.decode TrainingSetConfig (Config.encode c) =
      .ok { c with offlineType := .ofName c.offlineType.name } := by
  refine Config.recordRead rfl rfl (by simp) (?_ : Reads _ 127 _
    (ProviderType.ofName c.offlineType.name, c.offlineConfig, c.definition, c.isUpdate, ())) rfl
  exact .field rfl (c.offlineType.nameRead 127) <|
    .formatted SerializedConfig.format (by decide) c.offlineConfig <|
    .formatted TrainingSetDef.format (by decide) c.definition <|
    .formatted .bool (by decide) c.isUpdate .done

theorem MaterializeConfig.readBack (c : MaterializeConfig) :
    Config.decode MaterializeConfig (Config.encode c) =
      .ok { c with offlineType := .ofName c.offlineType.name
                   onlineType := .ofName c.onlineType.name } := by
  refine Config.recordRead rfl rfl (by simp) (?_ : Reads _ 127 _
    (ProviderType.ofName c.offlineType.name, c.offlineConfig, ProviderType.ofName c.onlineType.name,
      c.onlineConfig, c.resource, c.valueType, c.isUpdate, c.chunkSize, ())) rfl
  exact .field rfl (c.offlineType.nameRead 127) <|
    .formatted SerializedConfig.format (by decide) c.offlineConfig <|
    .field rfl (c.onlineType.nameRead 127) <|
    .formatted SerializedConfig.format (by decide) c.onlineConfig <|
    .formatted ResourceId.format (by decide) c.resource <|
    .formatted ValueType.format (by decide) c.valueType <|
    .formatted .bool (by decide) c.isUpdate <|
    .formatted .int64 (by decide) c.chunkSize .done

theorem CopyConfig.readBack (c : CopyConfig) :
    Config.decode CopyConfig (Config.encode c) =
      .ok { c with offlineType := .ofName c.offlineType.name
                   onlineType := .ofName c.onlineType.name } := by
  refine Config.recordRead rfl rfl (by simp) (?_ : Reads _ 127 _
    (ProviderType.ofName c.offlineType.name, c.offlineConfig, ProviderType.ofName c.onlineType.name,
      c.onlineConfig, c.materialization, c.resource, c.chunk.size, c.chunk.index, ())) rfl
  exact .field rfl (c.offlineType.nameRead 127) <|
    .formatted SerializedConfig.format (by decide) c.offlineConfig <|
    .field rfl (c.onlineType.nameRead 127) <|
    .formatted SerializedConfig.format (by decide) c.onlineConfig <|
    .formatted MaterializationId.format (by decide) c.materialization <|
    .formatted ResourceId.format (by decide) c.resource <|
    .formatted .int64 (by decide) c.chunk.size <|
    .formatted .int64 (by decide) c.chunk.index .done

theorem SourceConfig.readBack (c : SourceConfig) :
    Config.decode SourceConfig (Config.encode c) =
      .ok { c with offlineType := .ofName c.offlineType.name } := by
  refine Config.recordRead rfl rfl (by simp) (?_ : Reads _ 127 _
    (ProviderType.ofName c.offlineType.name, c.offlineConfig, c.resource, c.sourceTable, ())) rfl
  exact .field rfl (c.offlineType.nameRead 127) <|
    .formatted SerializedConfig.format (by decide) c.offlineConfig <|
    .formatted ResourceId.format (by decide) c.resource <|
    .formatted .string (by decide) c.sourceTable .done

theorem Config.everyKindReadsBack :
    (∀ c : RedisConfig, decode RedisConfig (encode c) = .ok c) ∧
    (∀ c : PostgresConfig, decode PostgresConfig (encode c) = .ok c) ∧
    (∀ c : TransformationJob, ∃ offline : ProviderType, offline.name = c.offlineType.name ∧
      decode TransformationJob (encode c) = .ok { c with offlineType := offline }) ∧
    (∀ c : TrainingSetConfig, ∃ offline : ProviderType, offline.name = c.offlineType.name ∧
      decode TrainingSetConfig (encode c) = .ok { c with offlineType := offline }) ∧
    (∀ c : MaterializeConfig, ∃ offline online : ProviderType,
      offline.name = c.offlineType.name ∧ online.name = c.onlineType.name ∧
      decode MaterializeConfig (encode c) =
        .ok { c with offlineType := offline, onlineType := online }) ∧
    (∀ c : CopyConfig, ∃ offline online : ProviderType,
      offline.name = c.offlineType.name ∧ online.name = c.onlineType.name ∧
      decode CopyConfig (encode c) = .ok { c with offlineType := offline, onlineType := online }) ∧
    (∀ c : SourceConfig, ∃ offline : ProviderType, offline.name = c.offlineType.name ∧
      decode SourceConfig (encode c) = .ok { c with offlineType := offline }) := by
  refine ⟨?redis, ?postgres, ?transformation, ?trainingSet, ?materialize, ?copy, ?source⟩
  case redis => exact formatRead RedisConfig.format (by decide)
  case postgres => exact formatRead PostgresConfig.format (by decide)
  case transformation => exact fun c => ⟨_, ProviderType.nameOfName _, c.readBack⟩
  case trainingSet => exact fun c => ⟨_, ProviderType.nameOfName _, c.readBack⟩
  case materialize =>
    exact fun c => ⟨_, _, ProviderType.nameOfName _, ProviderType.nameOfName _, c.readBack⟩
  case copy =>
    exact fun c => ⟨_, _, ProviderType.nameOfName _, ProviderType.nameOfName _, c.readBack⟩
  case source => exact fun c => ⟨_, ProviderType.nameOfName _, c.readBack⟩

end FeatureStore
