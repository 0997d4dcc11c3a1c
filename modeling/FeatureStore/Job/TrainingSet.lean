import FeatureStore.Job.Runner

/-!
Building a training set.
-/
namespace FeatureStore
open Json (Decoder)

structure TrainingSetConfig where
  offlineType : ProviderType
  offlineConfig : SerializedConfig
  definition : TrainingSetDef
  isUpdate : Bool
  deriving BEq, Repr

namespace TrainingSetConfig

def toJson (c : TrainingSetConfig) : Json :=
  .object [("offline_type", c.offlineType.toJson), ("offline_config", c.offlineConfig.toJson),
    ("def", c.definition.toJson), ("is_update", .bool c.isUpdate)]

def decoder : Decoder TrainingSetConfig :=
  Decoder.record "CreateTrainingSetConfig"
    (.field (Decoder.required "offline_type" ProviderType.decoder) <|
      .field (Decoder.required "offline_config" SerializedConfig.decoder) <|
      .field (Decoder.required "def" TrainingSetDef.decoder) <|
      .field (Decoder.defaulted "is_update" Decoder.bool false) .done)
    fun (offlineType, offlineConfig, definition, isUpdate, _) =>
      ⟨offlineType, offlineConfig, definition, isUpdate⟩

instance : Config TrainingSetConfig := ⟨"create training set", toJson, decoder⟩

variable {m : Type → Type} [Monad m]

def body (offline : OfflineStore m) (c : TrainingSetConfig) : Task m Unit :=
  if c.isUpdate then offline.updateTrainingSet c.definition
  else offline.createTrainingSet c.definition

def factory : RunnerFactory m := fun providers config => do
  let c ← Task.ofExcept (Config.decode TrainingSetConfig config)
  let offline ← providers.offlineStore c.offlineType c.offlineConfig
  return ⟨JobKind.createTrainingSet.name, body offline c⟩

end TrainingSetConfig
end FeatureStore
