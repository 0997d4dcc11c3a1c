import FeatureStore.Error

/-!
Identifiers: variants of named resources, and the snapshots made of them.
-/
namespace FeatureStore
open Json (Decoder)

inductive ResourceType where
  | none
  | label
  | feature
  | trainingSet
  | primary
  | transformation
  deriving DecidableEq, Repr, Inhabited

namespace ResourceType

def all : List (String × ResourceType) :=
  [("None", none), ("Label", label), ("Feature", feature), ("TrainingSet", trainingSet),
    ("Primary", primary), ("Transformation", transformation)]

def title : ResourceType → String
  | none => "None"
  | label => "Label"
  | feature => "Feature"
  | trainingSet => "TrainingSet"
  | primary => "Primary"
  | transformation => "Transformation"

def name : ResourceType → String
  | none => "none"
  | label => "label"
  | feature => "feature"
  | trainingSet => "training_set"
  | primary => "primary"
  | transformation => "transformation"

def toJson (t : ResourceType) : Json := .string t.title

def decoder : Decoder ResourceType := Decoder.oneOf all

end ResourceType

structure ResourceId where
  name : String
  variant : String
  type : ResourceType
  deriving DecidableEq, Repr, Inhabited

namespace ResourceId

def text (id : ResourceId) : String := id.type.name ++ "/" ++ id.name ++ "." ++ id.variant

def checkType (id : ResourceId) (expected : List ResourceType) : Except Error Unit :=
  if id.type ∈ expected then .ok ()
  else .error (.invalidInput (id.text ++ " has resource type " ++ id.type.name ++
    ", expected one of [" ++ ", ".intercalate (expected.map ResourceType.title) ++ "]"))

def toJson (id : ResourceId) : Json :=
  .object [("name", .string id.name), ("variant", .string id.variant),
    ("resource_type", id.type.toJson)]

def decoder : Decoder ResourceId :=
  Decoder.record "ResourceID"
    (.field (Decoder.required "name" Decoder.string) <|
      .field (Decoder.required "variant" Decoder.string) <|
      .field (Decoder.required "resource_type" ResourceType.decoder) .done)
    fun (name, variant, type, _) => ⟨name, variant, type⟩

end ResourceId

structure NameVariant where
  name : String
  variant : String
  deriving DecidableEq, Repr

namespace NameVariant

def toJson (v : NameVariant) : Json :=
  .object [("name", .string v.name), ("variant", .string v.variant)]

def decoder : Decoder NameVariant :=
  Decoder.record "NameVariant"
    (.field (Decoder.required "name" Decoder.string) <|
      .field (Decoder.required "variant" Decoder.string) .done)
    fun (name, variant, _) => ⟨name, variant⟩

end NameVariant

structure MaterializationId where
  text : String
  deriving DecidableEq, Repr

namespace MaterializationId

def ofResource (id : ResourceId) : MaterializationId :=
  ⟨"Materialization/" ++ id.name ++ "/" ++ id.variant⟩

def toJson (m : MaterializationId) : Json := .string m.text

def decoder : Decoder MaterializationId := Decoder.string.map MaterializationId.mk

end MaterializationId
end FeatureStore
