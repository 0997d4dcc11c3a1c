import FeatureStore.Offline.Store

/-!
The statements of the PostgreSQL store. Names go into them quoted, with every quote inside doubled, so
that a name is one word of the statement whatever it holds.
-/
namespace FeatureStore.Postgres

def doubleQuotes (s : List Char) : List Char :=
  s.flatMap fun c => if c = '"' then ['"', '"'] else [c]

def quoteIdent (name : String) : String := String.ofList ('"' :: (doubleQuotes name.toList ++ ['"']))

def tableName (id : ResourceId) : String :=
  "featureforge_" ++ id.type.name ++ "__" ++ id.name ++ "__" ++ id.variant

def catalog : String := "featureforge_materializations"

def buildTable (token : String) : String := "featureforge_mat_" ++ token

def createCatalog : String :=
  "CREATE TABLE IF NOT EXISTS " ++ quoteIdent catalog ++
    " (seq BIGSERIAL PRIMARY KEY, id TEXT NOT NULL, table_name TEXT NOT NULL)"

def tableTypeQuery : String :=
  "SELECT table_type::text FROM information_schema.tables " ++
    "WHERE table_schema = current_schema() AND table_name = $1"

def currentBuildQuery : String :=
  "SELECT table_name FROM " ++ quoteIdent catalog ++ " WHERE id = $1 ORDER BY seq DESC LIMIT 1"

def lockQuery : String := "SELECT pg_advisory_xact_lock(hashtext($1))"

def insertBuild : String :=
  "INSERT INTO " ++ quoteIdent catalog ++ " (id, table_name) VALUES ($1, $2)"

def deleteBuilds : String :=
  "DELETE FROM " ++ quoteIdent catalog ++ " WHERE id = $1 RETURNING table_name"

def startTransaction : String := "START TRANSACTION"

def commit : String := "COMMIT"

def dropTable (table : String) : String := "DROP TABLE IF EXISTS " ++ quoteIdent table

def columnType : ValueType → String
  | .int => "BIGINT"
  | .float => "DOUBLE PRECISION"
  | .string => "TEXT"
  | .bool => "BOOLEAN"
  | .timestamp => "TIMESTAMPTZ"
  | .floatVector => "DOUBLE PRECISION[]"

def createResource (table : String) : String :=
  "CREATE TABLE " ++ quoteIdent table ++
    " (entity TEXT NOT NULL, value JSONB, ts TIMESTAMPTZ NOT NULL DEFAULT to_timestamp(0))"

def columnText (c : TableColumn) : String := quoteIdent c.name ++ " " ++ columnType c.type

def createPrimary (table : String) (schema : TableSchema) : String :=
  "CREATE TABLE " ++ quoteIdent table ++ " (" ++
    ", ".intercalate (schema.columns.map columnText) ++ ")"

def resourceView (view : String) (schema : ResourceSchema) : String :=
  let ts :=
    if schema.ts.isEmpty then "to_timestamp(0)" else quoteIdent schema.ts ++ "::timestamptz"
  "CREATE VIEW " ++ quoteIdent view ++ " AS SELECT " ++ quoteIdent schema.entity ++
    "::text AS entity, to_jsonb(" ++ quoteIdent schema.value ++ ") AS value, " ++ ts ++
    " AS ts FROM " ++ quoteIdent schema.sourceTable

def primaryView (view source : String) : String :=
  "CREATE VIEW " ++ quoteIdent view ++ " AS SELECT * FROM " ++ quoteIdent source

def createTableAs (table query : String) : String :=
  "CREATE TABLE " ++ quoteIdent table ++ " AS " ++ query

def materialization (table source : String) : String :=
  "CREATE TABLE " ++ quoteIdent table ++
    " AS SELECT DISTINCT ON (entity) entity, value, ts FROM " ++ quoteIdent source ++
    " ORDER BY entity, ts DESC"

def featureColumn (index : Nat) : String :=
  "f" ++ toString index ++ ".value AS feature_" ++ toString index

def featureJoin (index : Nat) (feature : ResourceId) : String :=
  "LEFT JOIN LATERAL (SELECT value FROM " ++ quoteIdent (tableName feature) ++
    " WHERE entity = l.entity AND ts <= l.ts ORDER BY ts DESC LIMIT 1) AS f" ++ toString index ++
    " ON TRUE"

def trainingSet (table : String) (d : TrainingSetDef) : String :=
  let columns := (List.range d.features.length).map featureColumn ++ ["l.value AS label"]
  let joins := d.features.mapIdx featureJoin
  "CREATE TABLE " ++ quoteIdent table ++ " AS SELECT " ++ ", ".intercalate columns ++ " FROM " ++
    quoteIdent (tableName d.label) ++ " AS l " ++ " ".intercalate joins

def selectAll (table : String) : String := "SELECT * FROM " ++ quoteIdent table

def noRows (table : String) : String := "SELECT * FROM " ++ quoteIdent table ++ " LIMIT 0"

def countRows (table : String) : String := "SELECT COUNT(*) FROM " ++ quoteIdent table

def insertRecord (table : String) : String :=
  "INSERT INTO " ++ quoteIdent table ++ " (entity, value, ts) VALUES ($1, $2, $3)"

def insertRow (table : String) : String :=
  "INSERT INTO " ++ quoteIdent table ++ " SELECT * FROM jsonb_populate_record(NULL::" ++
    quoteIdent table ++ ", $1)"

def rowSegment (table : String) : String :=
  "SELECT to_jsonb(sub) FROM (SELECT * FROM " ++ quoteIdent table ++ " LIMIT $1) AS sub"

def recordSegment (table : String) : String :=
  "SELECT entity, value, ts FROM " ++ quoteIdent table ++ " ORDER BY entity OFFSET $1 LIMIT $2"

end FeatureStore.Postgres
