import FeatureStore.Offline.Postgres.Config
import FeatureStore.Offline.Postgres.Wire
import FeatureStore.Provider.Basic

/-!
An offline store on a PostgreSQL server. Every resource has a table or view of its own. What replaces a
table runs in one transaction, which is committed only when every statement before has succeeded. Each
build of a materialization has its own table, so that older handles keep their rows.
-/
namespace FeatureStore.Postgres

def concreteName : String := "featureforge_providers::postgres_store::PostgresOfflineStore"

def isTagged : Json → Bool
  | .object members =>
    (match members.lookup "type" with
      | some (.string _) => true
      | _ => false) && members.all fun m => m.1 = "type" ∨ m.1 = "value"
  | _ => false

def valueOfJson : Option Json → Except Error FeatureValue
  | none => .ok .null
  | some j =>
    if isTagged j then
      match Json.decodeJson FeatureValue.decoder j with
      | .ok v => .ok v
      | .error fault => .error (.deserialization "postgres value" fault)
    else .ok (.ofPlain j)

def jsonOfValue (v : FeatureValue) : Json := v.toJson

def plainError (context : String) (r : Refusal) : Error := r.plain context

def tableError (context kind id : String) (r : Refusal) : Error := r.about context kind id

def tableType (table : String) : Task Talk (Option String) := do
  connect
  match ← queryOptional tableTypeQuery [.text table] (plainError "Catalog query error") with
  | none => return none
  | some row => return some (← firstCell row Cell.asText)

def requireTable (table kind id : String) : Task Talk Unit := do
  if (← tableType table).isNone then Task.fail (.notFound kind id)

def executeBatch (sql kind id : String) : Task Talk Unit := do
  connect
  batch sql (tableError "Statement error" kind id)

def beginTransaction : Task Talk Unit := batch startTransaction (plainError "Begin transaction error")

def commitTransaction : Task Talk Unit := batch commit (plainError "Commit error")

def replaceTable (table sql kind : String) : Task Talk Unit := do
  connect
  beginTransaction
  batch (dropTable table) (tableError "Drop table error" kind table)
  batch sql (tableError "Create table error" kind table)
  commitTransaction

def ensureCatalog : Task Talk Unit := executeBatch createCatalog "materialization catalog" catalog

def writeRecord (id : ResourceId) (table : String) (readOnly : Bool) (r : ResourceRecord) :
    Task Talk Unit := do
  if readOnly then
    Task.fail (.unsupported (id.text ++ " is registered from a source table and is read-only"))
  Task.ofExcept r.check
  connect
  execute (insertRecord table) [.text r.entity, .json (jsonOfValue r.value), .time r.ts.toMicros]
    (tableError "Insert error" "resource table" id.text)

def resourceTable (id : ResourceId) (table : String) (readOnly : Bool) : ResourceTable Talk :=
  ⟨id, writeRecord id table readOnly⟩

def columnNames (table : String) : Task Talk (List String) :=
  prepare (noRows table) (tableError "Prepare error" "primary table" table)

def rowObject (columns : List String) (row : Row) : Json :=
  Json.ofMembers (columns.zip (row.map FeatureValue.toPlain))

def writeRow (table : String) (row : Row) : Task Talk Unit := do
  connect
  let columns ← columnNames table
  if columns.length ≠ row.length then
    Task.fail (.invalidInput ("row has " ++ toString row.length ++ " values but table " ++ table ++
      " has " ++ toString columns.length ++ " columns"))
  execute (insertRow table) [.json (rowObject columns row)]
    (tableError "Insert error" "primary table" table)

def countOf (table kind id : String) : Task Talk Int64 := do
  connect
  let row ← queryOne (countRows table) [] (tableError "Count error" kind id)
  firstCell row Cell.asBigint

def cellError (context : String) : Except CellFault α → Except Error α
  | .ok a => .ok a
  | .error fault => .error (.storage context fault.message)

def rowOf (columns : List String) (cells : List Cell) : Except Error Row := do
  let object ← cellError "Row decode error" (readCell cells 0 Cell.asJson)
  .ok (columns.map fun c => ((object.find? c).map FeatureValue.ofPlain).getD .null)

def rowsUpTo (table : String) (most : Int64) : Task Talk (List (Except Error Row)) := do
  connect
  let columns ← columnNames table
  let rows ← query (rowSegment table) [.bigint (max most 0)]
    (tableError "Segment query error" "primary table" table)
  return rows.map (rowOf columns)

def primaryTable (table : String) : PrimaryTable Talk where
  name := table
  write := writeRow table
  numRows := countOf table "primary table" table
  rows := rowsUpTo table

def recordOf (cells : List Cell) : Except Error ResourceRecord := do
  let entity ← cellError "Row decode error" (readCell cells 0 Cell.asText)
  let value ← cellError "Row decode error" (readCell cells 1 Cell.asOptionalJson)
  let value ← valueOfJson value
  let ts ← cellError "Row decode error" (readCell cells 2 Cell.asTime)
  .ok ⟨entity, value, ts⟩

def segment (id : MaterializationId) (table : String) (first last : Int64) :
    Task Talk (List (Except Error ResourceRecord)) := do
  if first < 0 || last < first then
    Task.fail (.invalidInput ("invalid segment [" ++ FeatureValue.intText first.toInt ++ ", " ++
      FeatureValue.intText last.toInt ++ ") of " ++ id.text))
  connect
  let rows ← query (recordSegment table) [.bigint first, .bigint (last - first)]
    (tableError "Segment query error" "materialization" id.text)
  return rows.map recordOf

def materializationHandle (id : MaterializationId) (table : String) : Materialization Talk where
  id := id
  numRows := countOf table "materialization" id.text
  segment := segment id table

def createResourceTable (id : ResourceId) (schema : TableSchema) : Task Talk (ResourceTable Talk) := do
  Task.ofExcept (id.checkType [.feature, .label])
  Task.ofExcept schema.checkResource
  executeBatch (createResource (tableName id)) "resource table" id.text
  return resourceTable id (tableName id) false

def getResource (id : ResourceId) : Task Talk (ResourceTable Talk) := do
  match ← tableType (tableName id) with
  | none => Task.fail (.notFound "resource table" id.text)
  | some type => return resourceTable id (tableName id) (type == "VIEW")

def createPrimaryTable (id : ResourceId) (schema : TableSchema) : Task Talk (PrimaryTable Talk) := do
  Task.ofExcept (id.checkType [.primary])
  if schema.columns.isEmpty then
    Task.fail (.invalidInput ("primary table " ++ id.text ++ " has no columns"))
  executeBatch (createPrimary (tableName id) schema) "primary table" id.text
  return primaryTable (tableName id)

def getPrimary (id : ResourceId) : Task Talk (PrimaryTable Talk) := do
  requireTable (tableName id) "primary table" id.text
  return primaryTable (tableName id)

def registerResource (id : ResourceId) (schema : ResourceSchema) :
    Task Talk (ResourceTable Talk) := do
  Task.ofExcept (id.checkType [.feature, .label])
  requireTable schema.sourceTable "source table" schema.sourceTable
  executeBatch (resourceView (tableName id) schema) "resource table" id.text
  return resourceTable id (tableName id) true

def registerPrimary (id : ResourceId) (source : String) : Task Talk (PrimaryTable Talk) := do
  Task.ofExcept (id.checkType [.primary])
  requireTable source "source table" source
  executeBatch (primaryView (tableName id) source) "primary table" id.text
  return primaryTable (tableName id)

def checkTransformation (c : TransformationConfig) : Except Error String := do
  if c.type ≠ .sql then
    .error (.unsupported ("postgres offline store only runs SQL transformations, got " ++
      c.type.name ++ " for " ++ c.target.text))
  c.target.checkType [.transformation]
  c.render quoteIdent

def createTransformation (c : TransformationConfig) : Task Talk Unit := do
  let query ← Task.ofExcept (checkTransformation c)
  executeBatch (createTableAs (tableName c.target) query) "transformation table" c.target.text

def updateTransformation (c : TransformationConfig) : Task Talk Unit := do
  let query ← Task.ofExcept (checkTransformation c)
  replaceTable (tableName c.target) (createTableAs (tableName c.target) query)
    "transformation table"

def getTransformation (id : ResourceId) : Task Talk (PrimaryTable Talk) := do
  Task.ofExcept (id.checkType [.transformation])
  requireTable (tableName id) "transformation table" id.text
  return primaryTable (tableName id)

def lock (mat : MaterializationId) : Task Talk Unit :=
  execute lockQuery [.text mat.text] (plainError "Materialization lock error")

/- Makes a new build and lists it; with `mustBeNew`, only when there is none. -/
def build (id : ResourceId) (mustBeNew : Bool) : Task Talk (Materialization Talk) := do
  Task.ofExcept (id.checkType [.feature])
  requireTable (tableName id) "resource table" id.text
  ensureCatalog
  let mat := MaterializationId.ofResource id
  let table := buildTable (← freshToken)
  connect
  beginTransaction
  lock mat
  if mustBeNew then
    let existing ← queryOptional currentBuildQuery [.text mat.text]
      (tableError "Catalog query error" "materialization" mat.text)
    if existing.isSome then Task.fail (.alreadyExists "materialization" mat.text)
  batch (materialization table (tableName id))
    (tableError "Create table error" "materialization" mat.text)
  execute insertBuild [.text mat.text, .text table]
    (tableError "Catalog insert error" "materialization" mat.text)
  commitTransaction
  return materializationHandle mat table

def getMaterialization (mat : MaterializationId) : Task Talk (Materialization Talk) := do
  ensureCatalog
  connect
  match ← queryOptional currentBuildQuery [.text mat.text]
    (tableError "Catalog query error" "materialization" mat.text) with
  | none => Task.fail (.notFound "materialization" mat.text)
  | some row => return materializationHandle mat (← firstCell row Cell.asText)

def dropBuilds (mat : MaterializationId) : List (List Cell) → Task Talk Unit
  | [] => return ()
  | row :: rest => do
    let table ← firstCell row Cell.asText
    batch (dropTable table) (tableError "Drop table error" "materialization" mat.text)
    dropBuilds mat rest

def deleteMaterialization (mat : MaterializationId) : Task Talk Unit := do
  ensureCatalog
  connect
  beginTransaction
  lock mat
  let builds ← query deleteBuilds [.text mat.text]
    (tableError "Catalog delete error" "materialization" mat.text)
  if builds.isEmpty then Task.fail (.notFound "materialization" mat.text)
  dropBuilds mat builds
  commitTransaction

def requireResources : List ResourceId → Task Talk Unit
  | [] => return ()
  | id :: rest => do
    requireTable (tableName id) "resource table" id.text
    requireResources rest

def checkTrainingSet (d : TrainingSetDef) : Task Talk Unit := do
  Task.ofExcept d.check
  requireResources (d.label :: d.features)

def createTrainingSet (d : TrainingSetDef) : Task Talk Unit := do
  checkTrainingSet d
  executeBatch (trainingSet (tableName d.id) d) "training set" d.id.text

def updateTrainingSet (d : TrainingSetDef) : Task Talk Unit := do
  checkTrainingSet d
  replaceTable (tableName d.id) (trainingSet (tableName d.id) d) "training set"

def trainingCell (cells : List Cell) (column : Nat) : Except Error FeatureValue := do
  let value ← cellError "Training set decode error" (readCell cells column Cell.asOptionalJson)
  valueOfJson value

def trainingRowOf (cells : List Cell) : Except Error TrainingSetRow := do
  let last := cells.length - 1
  let features ← (List.range last).mapM (trainingCell cells)
  let label ← trainingCell cells last
  .ok ⟨features, label⟩

def getTrainingSet (id : ResourceId) : Task Talk (List (Except Error TrainingSetRow)) := do
  Task.ofExcept (id.checkType [.trainingSet])
  connect
  let rows ← query (selectAll (tableName id)) []
    (tableError "Training set query error" "training set" id.text)
  return rows.map trainingRowOf

def store : OfflineStore Talk where
  createResource := createResourceTable
  getResource := getResource
  createPrimary := createPrimaryTable
  getPrimary := getPrimary
  registerResource := registerResource
  registerPrimary := registerPrimary
  createTransformation := createTransformation
  updateTransformation := updateTransformation
  getTransformation := getTransformation
  createMaterialization id := build id true
  updateMaterialization id := build id false
  getMaterialization := getMaterialization
  deleteMaterialization := deleteMaterialization
  createTrainingSet := createTrainingSet
  updateTrainingSet := updateTrainingSet
  getTrainingSet := getTrainingSet

def provider (config : SerializedConfig) : Provider Talk :=
  .ofOffline .postgresOffline concreteName config store

end FeatureStore.Postgres
