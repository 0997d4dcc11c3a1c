import FeatureStore.Bindings
import FeatureStore.Offline.Store
import FeatureStore.Provider.Basic

/-!
An offline store in memory. Tables of rows have fixed places, so that several resources may show the
same table; snapshots and training sets are plain lists and stay as they were built.
-/
namespace FeatureStore

structure MemoryTable where
  name : String
  schema : TableSchema
  rows : List Row
  deriving Repr

inductive RecordSource where
  | owned (records : List ResourceRecord)
  | columns (schema : ResourceSchema) (table : Nat)
  deriving Repr

structure Memory where
  resources : Bindings ResourceId RecordSource
  tables : List MemoryTable
  primaries : Bindings ResourceId Nat
  materializations : Bindings MaterializationId (List ResourceRecord)
  trainingSets : Bindings ResourceId (List TrainingSetRow)
  deriving Repr

namespace Memory

def empty : Memory := ⟨.empty, [], .empty, .empty, .empty⟩

instance : Inhabited Memory := ⟨empty⟩

abbrev Action (α : Type) := Task (StateM Memory) α

def concreteName : String := "featureforge_providers::memory::MemoryOfflineStore"

def tableName (id : ResourceId) : String :=
  "memory_" ++ id.type.name ++ "__" ++ id.name ++ "__" ++ id.variant

def columnMissing (column table : String) : Error :=
  .invalidInput ("column '" ++ column ++ "' not found in source table " ++ table)

def columnIndex (t : MemoryTable) (column : String) : Except Error Nat :=
  match t.schema.indexOf? column with
  | some i => .ok i
  | none => .error (columnMissing column t.name)

def timestampOf : FeatureValue → Except Error Timestamp
  | .null => .ok .epoch
  | .string s =>
    match Timestamp.readFixed s with
    | .ok ts => .ok ts
    | .error fault => .error (.invalidInput ("invalid timestamp '" ++ s ++ "': " ++ fault.message))
  | .int n =>
    match Timestamp.ofParts? n.toInt 0 with
    | some ts => .ok ts
    | none =>
      .error (.invalidInput ("timestamp " ++ FeatureValue.intText n.toInt ++ " out of range"))
  | other => .error (.invalidInput ("unsupported timestamp value " ++ other.describe))

def entityOf : Option FeatureValue → Except Error String
  | some (.string s) => .ok s
  | some (.int n) => .ok (FeatureValue.intText n.toInt)
  | other =>
    let shown :=
      match other with
      | some v => "Some(" ++ v.describe ++ ")"
      | none => "None"
    .error (.invalidInput ("entity column must hold strings or ints, got " ++ shown))

def recordOf (entity value : Nat) (ts : Option Nat) (row : Row) : Except Error ResourceRecord := do
  let e ← entityOf row[entity]?
  let t ←
    match ts with
    | some i => timestampOf (row[i]?.getD .null)
    | none => .ok .epoch
  .ok ⟨e, row[value]?.getD .null, t⟩

def recordsOf (t : MemoryTable) (schema : ResourceSchema) : Except Error (List ResourceRecord) := do
  let entity ← columnIndex t schema.entity
  let value ← columnIndex t schema.value
  let ts ← if schema.ts.isEmpty then .ok none else (columnIndex t schema.ts).map some
  t.rows.mapM (recordOf entity value ts)

def records (m : Memory) (id : ResourceId) : Except Error (List ResourceRecord) :=
  match m.resources.find? id with
  | none => .error (.notFound "resource table" id.text)
  | some (.owned records) => .ok records
  | some (.columns schema place) =>
    match m.tables[place]? with
    | some t => recordsOf t schema
    | none => .ok []

def appendRecord (record : ResourceRecord) : RecordSource → RecordSource
  | .owned records => .owned (records ++ [record])
  | source => source

def writeOwned (id : ResourceId) (record : ResourceRecord) : Action Unit := do
  Task.ofExcept record.check
  modify fun m =>
    match m.resources.find? id with
    | some source => { m with resources := m.resources.insert id (appendRecord record source) }
    | none => m

def readOnly (id : ResourceId) (schema : ResourceSchema) : Action Unit :=
  Task.fail (.unsupported
    (id.text ++ " is registered from source table " ++ schema.sourceTable ++ " and is read-only"))

def resourceTable (id : ResourceId) : RecordSource → ResourceTable (StateM Memory)
  | .owned _ => ⟨id, writeOwned id⟩
  | .columns schema _ => ⟨id, fun _ => readOnly id schema⟩

def rowsAt (place : Nat) : Action (List Row) := do
  return ((← get).tables[place]?.map (·.rows)).getD []

def writeRow (place : Nat) (t : MemoryTable) (row : Row) : Action Unit := do
  if row.length ≠ t.schema.columns.length then
    Task.fail (.invalidInput ("row has " ++ toString row.length ++ " values but table " ++ t.name ++
      " has " ++ toString t.schema.columns.length ++ " columns"))
  modify fun m => { m with tables := m.tables.modify place fun t => { t with rows := t.rows ++ [row] } }

def primaryTable (place : Nat) (t : MemoryTable) : PrimaryTable (StateM Memory) where
  name := t.name
  write row := writeRow place t row
  numRows := do return .ofNat (← rowsAt place).length
  rows most := do return ((← rowsAt place).take most.toNatClampNeg).map .ok

def segmentOf (id : MaterializationId) (records : List ResourceRecord) (first last : Int64) :
    Except Error (List ResourceRecord) :=
  if first < 0 || last < first then
    .error (.invalidInput ("invalid segment [" ++ FeatureValue.intText first.toInt ++ ", " ++
      FeatureValue.intText last.toInt ++ ") of " ++ id.text))
  else .ok ((records.take last.toNatClampNeg).drop first.toNatClampNeg)

def materialization (id : MaterializationId) (records : List ResourceRecord) :
    Materialization (StateM Memory) where
  id := id
  numRows := pure (.ofNat records.length)
  segment first last := do
    let slice ← Task.ofExcept (segmentOf id records first last)
    return slice.map .ok

def createResource (id : ResourceId) (schema : TableSchema) :
    Action (ResourceTable (StateM Memory)) := do
  Task.ofExcept (id.checkType [.feature, .label])
  Task.ofExcept schema.checkResource
  if (← get).resources.contains id then Task.fail (.alreadyExists "resource table" id.text)
  modify fun m => { m with resources := m.resources.insert id (.owned []) }
  return resourceTable id (.owned [])

def getResource (id : ResourceId) : Action (ResourceTable (StateM Memory)) := do
  match (← get).resources.find? id with
  | some source => return resourceTable id source
  | none => Task.fail (.notFound "resource table" id.text)

def createPrimary (id : ResourceId) (schema : TableSchema) :
    Action (PrimaryTable (StateM Memory)) := do
  Task.ofExcept (id.checkType [.primary])
  if schema.columns.isEmpty then
    Task.fail (.invalidInput ("primary table " ++ id.text ++ " has no columns"))
  let m ← get
  if m.primaries.contains id then Task.fail (.alreadyExists "primary table" id.text)
  let t : MemoryTable := ⟨tableName id, schema, []⟩
  let place := m.tables.length
  set { m with tables := m.tables ++ [t], primaries := m.primaries.insert id place }
  return primaryTable place t

def primaryAt? (m : Memory) (id : ResourceId) : Option (Nat × MemoryTable) := do
  let place ← m.primaries.find? id
  let t ← m.tables[place]?
  return (place, t)

def getPrimary (id : ResourceId) : Action (PrimaryTable (StateM Memory)) := do
  match primaryAt? (← get) id with
  | some (place, t) => return primaryTable place t
  | none => Task.fail (.notFound "primary table" id.text)

def primaryNamed? (m : Memory) (name : String) : Option (Nat × MemoryTable) :=
  m.primaries.values.findSome? fun place =>
    match m.tables[place]? with
    | some t => if t.name = name then some (place, t) else none
    | none => none

def sourceNamed (name : String) : Action (Nat × MemoryTable) := do
  match primaryNamed? (← get) name with
  | some found => return found
  | none => Task.fail (.notFound "source table" name)

def checkColumns (t : MemoryTable) (sourceTable : String) : List String → Except Error Unit
  | [] => .ok ()
  | c :: rest =>
    if (t.schema.indexOf? c).isNone then .error (columnMissing c sourceTable)
    else checkColumns t sourceTable rest

def registerResource (id : ResourceId) (schema : ResourceSchema) :
    Action (ResourceTable (StateM Memory)) := do
  Task.ofExcept (id.checkType [.feature, .label])
  if (← get).resources.contains id then Task.fail (.alreadyExists "resource table" id.text)
  let (place, t) ← sourceNamed schema.sourceTable
  Task.ofExcept (checkColumns t schema.sourceTable schema.columns)
  let source := RecordSource.columns schema place
  modify fun m => { m with resources := m.resources.insert id source }
  return resourceTable id source

def registerPrimary (id : ResourceId) (sourceTable : String) :
    Action (PrimaryTable (StateM Memory)) := do
  Task.ofExcept (id.checkType [.primary])
  if (← get).primaries.contains id then Task.fail (.alreadyExists "primary table" id.text)
  let (place, t) ← sourceNamed sourceTable
  modify fun m => { m with primaries := m.primaries.insert id place }
  return primaryTable place t

def refuseTransformation (c : TransformationConfig) : Action Unit :=
  Task.fail (.unsupported ("memory offline store cannot run transformation " ++ c.target.text))

def getTransformation (id : ResourceId) : Action (PrimaryTable (StateM Memory)) :=
  Task.fail (.notFound "transformation table" id.text)

def snapshot (m : Memory) (id : ResourceId) : Except Error (List ResourceRecord) := do
  id.checkType [.feature]
  (m.records id).map ResourceRecord.latestPerEntity

def createMaterialization (id : ResourceId) : Action (Materialization (StateM Memory)) := do
  let mat := MaterializationId.ofResource id
  let m ← get
  if m.materializations.contains mat then Task.fail (.alreadyExists "materialization" mat.text)
  let rows ← Task.ofExcept (m.snapshot id)
  set { m with materializations := m.materializations.insert mat rows }
  return materialization mat rows

def updateMaterialization (id : ResourceId) : Action (Materialization (StateM Memory)) := do
  let mat := MaterializationId.ofResource id
  let m ← get
  let rows ← Task.ofExcept (m.snapshot id)
  set { m with materializations := m.materializations.insert mat rows }
  return materialization mat rows

def getMaterialization (mat : MaterializationId) : Action (Materialization (StateM Memory)) := do
  match (← get).materializations.find? mat with
  | some rows => return materialization mat rows
  | none => Task.fail (.notFound "materialization" mat.text)

def deleteMaterialization (mat : MaterializationId) : Action Unit := do
  let m ← get
  if m.materializations.contains mat then
    set { m with materializations := m.materializations.erase mat }
  else Task.fail (.notFound "materialization" mat.text)

def trainingRows (m : Memory) (d : TrainingSetDef) : Except Error (List TrainingSetRow) := do
  d.check
  let labels ← m.records d.label
  let features ← d.features.mapM m.records
  .ok (joinTrainingSet labels features)

def createTrainingSet (d : TrainingSetDef) : Action Unit := do
  let m ← get
  if m.trainingSets.contains d.id then Task.fail (.alreadyExists "training set" d.id.text)
  let rows ← Task.ofExcept (m.trainingRows d)
  set { m with trainingSets := m.trainingSets.insert d.id rows }

def updateTrainingSet (d : TrainingSetDef) : Action Unit := do
  let m ← get
  let rows ← Task.ofExcept (m.trainingRows d)
  set { m with trainingSets := m.trainingSets.insert d.id rows }

def getTrainingSet (id : ResourceId) : Action (List (Except Error TrainingSetRow)) := do
  match (← get).trainingSets.find? id with
  | some rows => return rows.map .ok
  | none => Task.fail (.notFound "training set" id.text)

def store : OfflineStore (StateM Memory) where
  createResource := createResource
  getResource := getResource
  createPrimary := createPrimary
  getPrimary := getPrimary
  registerResource := registerResource
  registerPrimary := registerPrimary
  createTransformation := refuseTransformation
  updateTransformation := refuseTransformation
  getTransformation := getTransformation
  createMaterialization := createMaterialization
  updateMaterialization := updateMaterialization
  getMaterialization := getMaterialization
  deleteMaterialization := deleteMaterialization
  createTrainingSet := createTrainingSet
  updateTrainingSet := updateTrainingSet
  getTrainingSet := getTrainingSet

def provider (config : SerializedConfig) : Provider (StateM Memory) :=
  .ofOffline .memoryOffline concreteName config store

end Memory
end FeatureStore
