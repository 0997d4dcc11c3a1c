import FeatureStore.Resource
import FeatureStore.Text.Replace

/-!
Transformations: queries of a backend that name their sources by placeholders. `render` puts the
tables in; a placeholder that stays behind is an error.
-/
namespace FeatureStore
open Json (Decoder)

inductive TransformationType where
  | sql
  | dataframe
  deriving DecidableEq, Repr, Inhabited

namespace TransformationType

def all : List (String × TransformationType) := [("SQL", sql), ("DF", dataframe)]

def name : TransformationType → String
  | sql => "SQL"
  | dataframe => "DF"

def toJson (t : TransformationType) : Json := .string t.name

def decoder : Decoder TransformationType := Decoder.oneOf all

end TransformationType

structure SourceMapping where
  template : String
  source : String
  deriving DecidableEq, Repr

namespace SourceMapping

def toJson (m : SourceMapping) : Json :=
  .object [("template", .string m.template), ("source", .string m.source)]

def decoder : Decoder SourceMapping :=
  Decoder.record "SourceMapping"
    (.field (Decoder.required "template" Decoder.string) <|
      .field (Decoder.required "source" Decoder.string) .done)
    fun (template, source, _) => ⟨template, source⟩

end SourceMapping

structure TransformationConfig where
  type : TransformationType
  target : ResourceId
  query : String
  sources : List SourceMapping
  deriving DecidableEq, Repr, Inhabited

namespace TransformationConfig

def toJson (c : TransformationConfig) : Json :=
  .object [("transformation_type", c.type.toJson), ("target_table_id", c.target.toJson),
    ("query", .string c.query), ("source_mapping", .array (c.sources.map SourceMapping.toJson))]

def decoder : Decoder TransformationConfig :=
  Decoder.record "TransformationConfig"
    (.field (Decoder.required "transformation_type" TransformationType.decoder) <|
      .field (Decoder.required "target_table_id" ResourceId.decoder) <|
      .field (Decoder.required "query" Decoder.string) <|
      .field (Decoder.required "source_mapping" (Decoder.list SourceMapping.decoder)) .done)
    fun (type, target, query, sources, _) => ⟨type, target, query, sources⟩

def opening : List Char := ['\x7b', '\x7b']

def closing : List Char := ['\x7d', '\x7d']

def substitute (quote : String → String) : List SourceMapping → List Char → Except Error (List Char)
  | [], query => .ok query
  | m :: rest, query =>
    if m.template.isEmpty then .error (.invalidInput "source mapping with an empty template")
    else substitute quote rest (Text.replace m.template.toList (quote m.source).toList query)

def placeholder? (query : List Char) : Option (List Char) :=
  (Text.fromFirst? opening query).map (Text.throughFirst closing)

def render (c : TransformationConfig) (quote : String → String) : Except Error String := do
  let query ← substitute quote c.sources c.query.toList
  match placeholder? query with
  | none => .ok (String.ofList query)
  | some p => .error (.invalidInput ("transformation " ++ c.target.text ++
      " references unmapped source " ++ String.ofList p))

end TransformationConfig
end FeatureStore
