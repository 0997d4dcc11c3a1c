import FeatureStore.Resource
import FeatureStore.Value

/-!
Layouts of tables, and the layout that a table of features or labels needs.
-/
namespace FeatureStore
open Json (Decoder)

structure TableColumn where
  name : String
  type : ValueType
  deriving DecidableEq, Repr

namespace TableColumn

def toJson (c : TableColumn) : Json :=
  .object [("name", .string c.name), ("value_type", c.type.toJson)]

def decoder : Decoder TableColumn :=
  Decoder.record "TableColumn"
    (.field (Decoder.required "name" Decoder.string) <|
      .field (Decoder.required "value_type" ValueType.decoder) .done)
    fun (name, type, _) => ⟨name, type⟩

end TableColumn

structure TableSchema where
  columns : List TableColumn
  deriving DecidableEq, Repr

namespace TableSchema

def indexOf? (s : TableSchema) (name : String) : Option Nat :=
  s.columns.findIdx? fun c => c.name = name

def checkResource (s : TableSchema) : Except Error Unit :=
  if (s.indexOf? "entity").isNone then
    .error (.invalidInput "resource table schema needs an 'entity' column")
  else if (s.indexOf? "value").isNone then
    .error (.invalidInput "resource table schema needs a 'value' column")
  else .ok ()

def toJson (s : TableSchema) : Json :=
  .object [("columns", .array (s.columns.map TableColumn.toJson))]

def decoder : Decoder TableSchema :=
  Decoder.record "TableSchema"
    (.field (Decoder.required "columns" (Decoder.list TableColumn.decoder)) .done)
    fun (columns, _) => ⟨columns⟩

end TableSchema

structure ResourceSchema where
  entity : String
  value : String
  ts : String
  sourceTable : String
  deriving DecidableEq, Repr, Inhabited

namespace ResourceSchema

def columns (s : ResourceSchema) : List String :=
  [s.entity, s.value] ++ if s.ts.isEmpty then [] else [s.ts]

def toJson (s : ResourceSchema) : Json :=
  .object [("entity", .string s.entity), ("value", .string s.value), ("ts", .string s.ts),
    ("source_table", .string s.sourceTable)]

def decoder : Decoder ResourceSchema :=
  Decoder.record "ResourceSchema"
    (.field (Decoder.required "entity" Decoder.string) <|
      .field (Decoder.required "value" Decoder.string) <|
      .field (Decoder.required "ts" Decoder.string) <|
      .field (Decoder.required "source_table" Decoder.string) .done)
    fun (entity, value, ts, sourceTable, _) => ⟨entity, value, ts, sourceTable⟩

end ResourceSchema

abbrev Row := List FeatureValue

end FeatureStore
