import FeatureStore.Job.Chunk
import FeatureStore.Job.Runner

/-!
Copying one chunk of a snapshot into an online table. A chunk behind the end copies nothing.
-/
namespace FeatureStore
open Json (Decoder)

structure CopyConfig where
  offlineType : ProviderType
  offlineConfig : SerializedConfig
  onlineType : ProviderType
  onlineConfig : SerializedConfig
  materialization : MaterializationId
  resource : ResourceId
  chunk : Chunk
  deriving BEq, Repr

namespace CopyConfig

def toJson (c : CopyConfig) : Json :=
  .object [("offline_type", c.offlineType.toJson), ("offline_config", c.offlineConfig.toJson),
    ("online_type", c.onlineType.toJson), ("online_config", c.onlineConfig.toJson),
    ("materialization_id", c.materialization.toJson), ("resource_id", c.resource.toJson),
    ("chunk_size", .ofInt64 c.chunk.size), ("chunk_idx", .ofInt64 c.chunk.index)]

def decoder : Decoder CopyConfig :=
  Decoder.record "CopyToOnlineConfig"
    (.field (Decoder.required "offline_type" ProviderType.decoder) <|
      .field (Decoder.required "offline_config" SerializedConfig.decoder) <|
      .field (Decoder.required "online_type" ProviderType.decoder) <|
      .field (Decoder.required "online_config" SerializedConfig.decoder) <|
      .field (Decoder.required "materialization_id" MaterializationId.decoder) <|
      .field (Decoder.required "resource_id" ResourceId.decoder) <|
      .field (Decoder.required "chunk_size" Decoder.int64) <|
      .field (Decoder.required "chunk_idx" Decoder.int64) .done)
    fun (offlineType, offlineConfig, onlineType, onlineConfig, materialization, resource, size,
        index, _) =>
      ⟨offlineType, offlineConfig, onlineType, onlineConfig, materialization, resource,
        ⟨size, index⟩⟩

instance : Config CopyConfig := ⟨"copy to online", toJson, decoder⟩

end CopyConfig

namespace Copy
variable {m : Type → Type} [Monad m]

def entries : List (Except Error ResourceRecord) → Except Error (List (String × FeatureValue))
  | [] => .ok []
  | r :: rest => do
    let r ← r
    let more ← entries rest
    .ok ((r.entity, r.value) :: more)

def body (snapshot : Task m (Materialization m)) (online : OnlineStore m) (resource : ResourceId)
    (chunk : Chunk) : Task m Unit := do
  let mat ← snapshot
  let table ← online.getTable resource.name resource.variant
  let numRows ← mat.numRows
  match chunk.range? numRows with
  | none => return ()
  | some (first, last) =>
    let records ← mat.segment first last
    table.setBatch (← Task.ofExcept (entries records))

def jobName (index : Int64) : String :=
  JobKind.copyToOnline.name ++ "[" ++ FeatureValue.intText index.toInt ++ "]"

def runner (snapshot : Task m (Materialization m)) (online : OnlineStore m) (resource : ResourceId)
    (chunk : Chunk) : Runner m :=
  ⟨jobName chunk.index, body snapshot online resource chunk⟩

def factory : RunnerFactory m := fun providers config => do
  let c ← Task.ofExcept (Config.decode CopyConfig config)
  Task.ofExcept c.chunk.check
  let offline ← providers.offlineStore c.offlineType c.offlineConfig
  let online ← providers.onlineStore c.onlineType c.onlineConfig
  return runner (offline.getMaterialization c.materialization) online c.resource c.chunk

end Copy
end FeatureStore
