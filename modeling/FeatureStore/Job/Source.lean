import FeatureStore.Job.Runner

/-!
Registering a table that exists as a source.
-/
namespace FeatureStore
open Json (Decoder)

structure SourceConfig where
  offlineType : ProviderType
  offlineConfig : SerializedConfig
  resource : ResourceId
  sourceTable : String
  deriving BEq, Repr

namespace SourceConfig

def toJson (c : SourceConfig) : Json :=
  .object [("offline_type", c.offlineType.toJson), ("offline_config", c.offlineConfig.toJson),
    ("resource_id", c.resource.toJson), ("source_table", .string c.sourceTable)]

def decoder : Decoder SourceConfig :=
  Decoder.record "RegisterSourceConfig"
    (.field (Decoder.required "offline_type" ProviderType.decoder) <|
      .field (Decoder.required "offline_config" SerializedConfig.decoder) <|
      .field (Decoder.required "resource_id" ResourceId.decoder) <|
      .field (Decoder.required "source_table" Decoder.string) .done)
    fun (offlineType, offlineConfig, resource, sourceTable, _) =>
      ⟨offlineType, offlineConfig, resource, sourceTable⟩

instance : Config SourceConfig := ⟨"register source", toJson, decoder⟩

def check (c : SourceConfig) : Except Error Unit := do
  c.resource.checkType [.primary]
  if c.sourceTable.isEmpty then
    .error (.invalidInput ("no source table given for " ++ c.resource.text))
  else .ok ()

variable {m : Type → Type} [Monad m]

def body (offline : OfflineStore m) (c : SourceConfig) : Task m Unit := do
  let _ ← offline.registerPrimary c.resource c.sourceTable
  return ()

def factory : RunnerFactory m := fun providers config => do
  let c ← Task.ofExcept (Config.decode SourceConfig config)
  Task.ofExcept c.check
  let offline ← providers.offlineStore c.offlineType c.offlineConfig
  return ⟨JobKind.registerSource.name, body offline c⟩

end SourceConfig
end FeatureStore
