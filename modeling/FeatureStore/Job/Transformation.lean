import FeatureStore.Job.Runner

/-!
Running a transformation, and resolving the sources that its query names.
-/
namespace FeatureStore
open Json (Decoder)

structure TransformationJob where
  offlineType : ProviderType
  offlineConfig : SerializedConfig
  transformation : TransformationConfig
  isUpdate : Bool
  deriving BEq, Repr

namespace TransformationJob

def toJson (c : TransformationJob) : Json :=
  .object [("offline_type", c.offlineType.toJson), ("offline_config", c.offlineConfig.toJson),
    ("transformation_config", c.transformation.toJson), ("is_update", .bool c.isUpdate)]

def decoder : Decoder TransformationJob :=
  Decoder.record "CreateTransformationConfig"
    (.field (Decoder.required "offline_type" ProviderType.decoder) <|
      .field (Decoder.required "offline_config" SerializedConfig.decoder) <|
      .field (Decoder.required "transformation_config" TransformationConfig.decoder) <|
      .field (Decoder.defaulted "is_update" Decoder.bool false) .done)
    fun (offlineType, offlineConfig, transformation, isUpdate, _) =>
      ⟨offlineType, offlineConfig, transformation, isUpdate⟩

instance : Config TransformationJob := ⟨"create transformation", toJson, decoder⟩

variable {m : Type → Type} [Monad m]

def body (offline : OfflineStore m) (c : TransformationJob) : Task m Unit :=
  if c.isUpdate then offline.updateTransformation c.transformation
  else offline.createTransformation c.transformation

def factory : RunnerFactory m := fun providers config => do
  let c ← Task.ofExcept (Config.decode TransformationJob config)
  let offline ← providers.offlineStore c.offlineType c.offlineConfig
  return ⟨JobKind.createTransformation.name, body offline c⟩

end TransformationJob

structure SourceReference where
  template : String
  source : NameVariant
  deriving DecidableEq, Repr

namespace SourceReference

def toJson (r : SourceReference) : Json :=
  .object [("template", .string r.template), ("source", r.source.toJson)]

def decoder : Decoder SourceReference :=
  Decoder.record "SourceReference"
    (.field (Decoder.required "template" Decoder.string) <|
      .field (Decoder.required "source" NameVariant.decoder) .done)
    fun (template, source, _) => ⟨template, source⟩

variable {m : Type → Type} [Monad m]

def tableOf (offline : OfflineStore m) (source : NameVariant) (id : ResourceId) :
    Task m (PrimaryTable m) :=
  match id.type with
  | .primary => offline.getPrimary id
  | .transformation => offline.getTransformation id
  | other => Task.fail (.invalidInput ("source " ++ source.name ++ "." ++ source.variant ++
      " resolved to a " ++ other.name ++ " resource"))

def resolve (catalog : NameVariant → Task m ResourceId) (offline : OfflineStore m) :
    List SourceReference → Task m (List SourceMapping)
  | [] => return []
  | r :: rest => do
    let id ← catalog r.source
    let table ← tableOf offline r.source id
    let more ← resolve catalog offline rest
    return ⟨r.template, table.name⟩ :: more

end SourceReference
end FeatureStore
