import FeatureStore.Job.Copy

/-!
Materializing a feature: a snapshot of its latest values is built, the online table is made ready, and
the snapshot is copied into it chunk by chunk. The chunks may run in any order; what fails is reported
in the order of the chunks, and what was copied stays.
-/
namespace FeatureStore
open Json (Decoder)

structure MaterializeConfig where
  offlineType : ProviderType
  offlineConfig : SerializedConfig
  onlineType : ProviderType
  onlineConfig : SerializedConfig
  resource : ResourceId
  valueType : ValueType
  isUpdate : Bool
  chunkSize : Int64
  deriving BEq, Repr

namespace MaterializeConfig

def toJson (c : MaterializeConfig) : Json :=
  .object [("offline_type", c.offlineType.toJson), ("offline_config", c.offlineConfig.toJson),
    ("online_type", c.onlineType.toJson), ("online_config", c.onlineConfig.toJson),
    ("resource_id", c.resource.toJson), ("value_type", c.valueType.toJson),
    ("is_update", .bool c.isUpdate), ("chunk_size", .ofInt64 c.chunkSize)]

def decoder : Decoder MaterializeConfig :=
  Decoder.record "MaterializeConfig"
    (.field (Decoder.required "offline_type" ProviderType.decoder) <|
      .field (Decoder.required "offline_config" SerializedConfig.decoder) <|
      .field (Decoder.required "online_type" ProviderType.decoder) <|
      .field (Decoder.required "online_config" SerializedConfig.decoder) <|
      .field (Decoder.required "resource_id" ResourceId.decoder) <|
      .field (Decoder.required "value_type" ValueType.decoder) <|
      .field (Decoder.defaulted "is_update" Decoder.bool false) <|
      .field (Decoder.defaulted "chunk_size" Decoder.int64 1024) .done)
    fun (offlineType, offlineConfig, onlineType, onlineConfig, resource, valueType, isUpdate,
        chunkSize, _) =>
      ⟨offlineType, offlineConfig, onlineType, onlineConfig, resource, valueType, isUpdate,
        chunkSize⟩

instance : Config MaterializeConfig := ⟨"materialize", toJson, decoder⟩

end MaterializeConfig

namespace Materialize
variable {m : Type → Type} [Monad m]

def ensureTable (online : OnlineStore m) (resource : ResourceId) (type : ValueType)
    (isUpdate : Bool) : Task m Unit := do
  let create : Task m Unit := do
    let _ ← online.createTable resource.name resource.variant type
    return ()
  if isUpdate then
    match ← ExceptT.lift (online.getTable resource.name resource.variant).run with
    | .ok _ => return ()
    | .error (.error e) => if e.isNotFound then create else Task.fail e
    | .error .panic => throw .panic
  else create

def copyEach (mat : Materialization m) (online : OnlineStore m) (resource : ResourceId)
    (size : Int64) : List Nat → m (List (Nat × Except Error Unit))
  | [] => return []
  | index :: rest => do
    let result ← (Copy.runner (pure mat) online resource ⟨size, .ofNat index⟩).wait
    let more ← copyEach mat online resource size rest
    return (index, result) :: more

def failures (count : Nat) (results : List (Nat × Except Error Unit)) : List String :=
  (List.range count).filterMap fun index =>
    match results.lookup index with
    | some (.error e) => some e.message
    | _ => none

def report (count : Nat) (results : List (Nat × Except Error Unit)) : Except Error Unit :=
  match failures count results with
  | [] => .ok ()
  | failed => .error (.jobFailed JobKind.copyToOnline.name
      (toString failed.length ++ " of " ++ toString count ++ " chunks failed: " ++
        "; ".intercalate failed))

/- The job; `arrange` says in which order the chunks run. -/
def body (arrange : List Nat → List Nat) (offline : OfflineStore m) (online : OnlineStore m)
    (c : MaterializeConfig) : Task m Unit := do
  let mat ←
    if c.isUpdate then offline.updateMaterialization c.resource
    else offline.createMaterialization c.resource
  ensureTable online c.resource c.valueType c.isUpdate
  let numRows ← mat.numRows
  let count := (Chunk.count numRows c.chunkSize).toNatClampNeg
  let results ← ExceptT.lift (copyEach mat online c.resource c.chunkSize (arrange (List.range count)))
  Task.ofExcept (report count results)

def factory (arrange : List Nat → List Nat) : RunnerFactory m := fun providers config => do
  let c ← Task.ofExcept (Config.decode MaterializeConfig config)
  Task.ofExcept (c.resource.checkType [.feature])
  Task.ofExcept (Chunk.checkSize c.chunkSize)
  let offline ← providers.offlineStore c.offlineType c.offlineConfig
  let online ← providers.onlineStore c.onlineType c.onlineConfig
  return ⟨JobKind.materialize.name, body arrange offline online c⟩

end Materialize
end FeatureStore
