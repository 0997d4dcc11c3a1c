import FeatureStore.Record

/-!
Training sets: the records of a label, each with the values that its features had at that time.
-/
namespace FeatureStore
open Json (Decoder)

structure TrainingSetDef where
  id : ResourceId
  label : ResourceId
  features : List ResourceId
  deriving DecidableEq, Repr, Inhabited

namespace TrainingSetDef

def checkFeatures : List ResourceId → Except Error Unit
  | [] => .ok ()
  | f :: rest => do
    f.checkType [.feature]
    checkFeatures rest

def check (d : TrainingSetDef) : Except Error Unit := do
  d.id.checkType [.trainingSet]
  d.label.checkType [.label]
  if d.features.isEmpty then
    .error (.invalidInput ("training set " ++ d.id.text ++ " has no features"))
  checkFeatures d.features

def toJson (d : TrainingSetDef) : Json :=
  .object [("id", d.id.toJson), ("label", d.label.toJson),
    ("features", .array (d.features.map ResourceId.toJson))]

def decoder : Decoder TrainingSetDef :=
  Decoder.record "TrainingSetDef"
    (.field (Decoder.required "id" ResourceId.decoder) <|
      .field (Decoder.required "label" ResourceId.decoder) <|
      .field (Decoder.required "features" (Decoder.list ResourceId.decoder)) .done)
    fun (id, label, features, _) => ⟨id, label, features⟩

end TrainingSetDef

structure TrainingSetRow where
  features : List FeatureValue
  label : FeatureValue
  deriving BEq, Repr

def joinTrainingSet (labels : List ResourceRecord) (features : List (List ResourceRecord)) :
    List TrainingSetRow :=
  labels.map fun l => ⟨features.map fun f => ResourceRecord.valueAsOf f l.entity l.ts, l.value⟩

end FeatureStore
