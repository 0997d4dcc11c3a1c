import FeatureStore.Offline.Memory
import FeatureStore.Proofs.Bindings
import FeatureStore.Proofs.Task

/-!
What each operation of the offline store in memory answers, and the state that it leaves. An operation
that fails leaves the store as it was; one that succeeds changes one entry.
-/
namespace FeatureStore

namespace ResourceId
variable {id : ResourceId}

theorem checkTypeIff {kinds : List ResourceType} : id.checkType kinds = .ok () ↔ id.type ∈ kinds := by
  rw [checkType]
  split <;> simp_all

theorem checkOneIff {kind : ResourceType} : id.checkType [kind] = .ok () ↔ id.type = kind := by
  rw [checkTypeIff, List.mem_singleton]

theorem checkTwoIff {kind other : ResourceType} :
    id.checkType [kind, other] = .ok () ↔ id.type = kind ∨ id.type = other := by
  rw [checkTypeIff, List.mem_cons, List.mem_singleton]

end ResourceId

namespace Memory

def failed {α : Type} (e : Error) (m : Memory) : Except Failure α × Memory := (.error (.error e), m)

def putResource (m : Memory) (id : ResourceId) (source : RecordSource) : Memory :=
  { m with resources := m.resources.insert id source }

def putPrimary (m : Memory) (id : ResourceId) (place : Nat) : Memory :=
  { m with primaries := m.primaries.insert id place }

def addTable (m : Memory) (id : ResourceId) (t : MemoryTable) : Memory :=
  { m with tables := m.tables ++ [t], primaries := m.primaries.insert id m.tables.length }

def putMaterialization (m : Memory) (mat : MaterializationId) (rows : List ResourceRecord) : Memory :=
  { m with materializations := m.materializations.insert mat rows }

def dropMaterialization (m : Memory) (mat : MaterializationId) : Memory :=
  { m with materializations := m.materializations.erase mat }

def putTrainingSet (m : Memory) (id : ResourceId) (rows : List TrainingSetRow) : Memory :=
  { m with trainingSets := m.trainingSets.insert id rows }

def addRow (m : Memory) (place : Nat) (row : Row) : Memory :=
  { m with tables := m.tables.modify place fun t => { t with rows := t.rows ++ [row] } }

def addRecord (m : Memory) (id : ResourceId) (r : ResourceRecord) : Memory :=
  match m.resources.find? id with
  | some source => m.putResource id (appendRecord r source)
  | none => m

theorem addRecordOwned {m : Memory} {id : ResourceId} {records : List ResourceRecord}
    (owned : m.resources.find? id = some (.owned records)) (r : ResourceRecord) :
    m.addRecord id r = m.putResource id (.owned (records ++ [r])) := by
  rw [addRecord, owned]
  rfl

theorem createResourceOn (id : ResourceId) (schema : TableSchema) (m : Memory) :
    (createResource id schema).on m =
      match id.checkType [.feature, .label], schema.checkResource with
      | .error e, _ => failed e m
      | .ok _, .error e => failed e m
      | .ok _, .ok _ =>
        if m.resources.contains id then failed (.alreadyExists "resource table" id.text) m
        else (.ok (resourceTable id (.owned [])), m.putResource id (.owned [])) := by
  simp only [createResource, Task.onBind, Task.onExcept, Task.onGet]
  rcases id.checkType [.feature, .label] with e | _
  · rfl
  · rcases schema.checkResource with e | _
    · rfl
    · simp only [Task.mapErrorOk]
      split <;> rfl

theorem getResourceOn (id : ResourceId) (m : Memory) :
    (getResource id).on m =
      match m.resources.find? id with
      | some source => (.ok (resourceTable id source), m)
      | none => failed (.notFound "resource table" id.text) m := by
  simp only [getResource, Task.onBind, Task.onGet]
  cases m.resources.find? id <;> rfl

theorem writeOwnedOn (id : ResourceId) (r : ResourceRecord) (m : Memory) :
    (writeOwned id r).on m =
      match r.check with
      | .error e => failed e m
      | .ok _ => (.ok (), m.addRecord id r) := by
  simp only [writeOwned, Task.onBind, Task.onExcept]
  rcases r.check with e | _
  · rfl
  · simp only [Task.mapErrorOk, Task.onModify]
    unfold addRecord
    cases m.resources.find? id <;> rfl

theorem readOnlyOn (id : ResourceId) (schema : ResourceSchema) (m : Memory) :
    (readOnly id schema).on m =
      failed (.unsupported (id.text ++ " is registered from source table " ++ schema.sourceTable ++
        " and is read-only")) m := rfl

theorem sourceNamedOn (name : String) (m : Memory) :
    (sourceNamed name).on m =
      match primaryNamed? m name with
      | some found => (.ok found, m)
      | none => failed (.notFound "source table" name) m := by
  simp only [sourceNamed, Task.onBind, Task.onGet]
  cases primaryNamed? m name <;> rfl

theorem registerResourceOn (id : ResourceId) (schema : ResourceSchema) (m : Memory) :
    (registerResource id schema).on m =
      match id.checkType [.feature, .label] with
      | .error e => failed e m
      | .ok _ =>
        if m.resources.contains id then failed (.alreadyExists "resource table" id.text) m
        else
          match primaryNamed? m schema.sourceTable with
          | none => failed (.notFound "source table" schema.sourceTable) m
          | some (place, t) =>
            match checkColumns t schema.sourceTable schema.columns with
            | .error e => failed e m
            | .ok _ => (.ok (resourceTable id (.columns schema place)),
                m.putResource id (.columns schema place)) := by
  simp only [registerResource, Task.onBind, Task.onExcept, Task.onGet]
  rcases id.checkType [.feature, .label] with e | _
  · rfl
  · simp only [Task.mapErrorOk]
    split
    · rfl
    · simp only [Task.onBind, sourceNamedOn]
      rcases primaryNamed? m schema.sourceTable with _ | ⟨place, t⟩
      · rfl
      · simp only [Task.onExcept]
        rcases checkColumns t schema.sourceTable schema.columns <;> rfl

theorem createPrimaryOn (id : ResourceId) (schema : TableSchema) (m : Memory) :
    (createPrimary id schema).on m =
      match id.checkType [.primary] with
      | .error e => failed e m
      | .ok _ =>
        if schema.columns.isEmpty then
          failed (.invalidInput ("primary table " ++ id.text ++ " has no columns")) m
        else if m.primaries.contains id then failed (.alreadyExists "primary table" id.text) m
        else (.ok (primaryTable m.tables.length ⟨tableName id, schema, []⟩),
          m.addTable id ⟨tableName id, schema, []⟩) := by
  simp only [createPrimary, Task.onBind, Task.onExcept]
  rcases id.checkType [.primary] with e | _
  · rfl
  · simp only [Task.mapErrorOk]
    split
    · rfl
    · simp only [Task.onBind, Task.onGet]
      split <;> rfl

theorem getPrimaryOn (id : ResourceId) (m : Memory) :
    (getPrimary id).on m =
      match primaryAt? m id with
      | some (place, t) => (.ok (primaryTable place t), m)
      | none => failed (.notFound "primary table" id.text) m := by
  simp only [getPrimary, Task.onBind, Task.onGet]
  rcases primaryAt? m id with _ | ⟨place, t⟩ <;> rfl

theorem registerPrimaryOn (id : ResourceId) (source : String) (m : Memory) :
    (registerPrimary id source).on m =
      match id.checkType [.primary] with
      | .error e => failed e m
      | .ok _ =>
        if m.primaries.contains id then failed (.alreadyExists "primary table" id.text) m
        else
          match primaryNamed? m source with
          | none => failed (.notFound "source table" source) m
          | some (place, t) => (.ok (primaryTable place t), m.putPrimary id place) := by
  simp only [registerPrimary, Task.onBind, Task.onExcept, Task.onGet]
  rcases id.checkType [.primary] with e | _
  · rfl
  · simp only [Task.mapErrorOk]
    split
    · rfl
    · simp only [Task.onBind, sourceNamedOn]
      rcases primaryNamed? m source with _ | ⟨place, t⟩ <;> rfl

theorem writeRowOn (place : Nat) (t : MemoryTable) (row : Row) (m : Memory) :
    (writeRow place t row).on m =
      if row.length ≠ t.schema.columns.length then
        failed (.invalidInput ("row has " ++ toString row.length ++ " values but table " ++ t.name ++
          " has " ++ toString t.schema.columns.length ++ " columns")) m
      else (.ok (), m.addRow place row) := by
  simp only [writeRow]
  split <;> rfl

theorem createMaterializationOn (id : ResourceId) (m : Memory) :
    (createMaterialization id).on m =
      if m.materializations.contains (.ofResource id) then
        failed (.alreadyExists "materialization" (MaterializationId.ofResource id).text) m
      else
        match m.snapshot id with
        | .error e => failed e m
        | .ok rows => (.ok (materialization (.ofResource id) rows),
            m.putMaterialization (.ofResource id) rows) := by
  simp only [createMaterialization, Task.onBind, Task.onGet]
  split
  · rfl
  · simp only [Task.onBind, Task.onExcept]
    cases m.snapshot id <;> rfl

theorem updateMaterializationOn (id : ResourceId) (m : Memory) :
    (updateMaterialization id).on m =
      match m.snapshot id with
      | .error e => failed e m
      | .ok rows => (.ok (materialization (.ofResource id) rows),
          m.putMaterialization (.ofResource id) rows) := by
  simp only [updateMaterialization, Task.onBind, Task.onGet, Task.onExcept]
  cases m.snapshot id <;> rfl

theorem getMaterializationOn (mat : MaterializationId) (m : Memory) :
    (getMaterialization mat).on m =
      match m.materializations.find? mat with
      | some rows => (.ok (materialization mat rows), m)
      | none => failed (.notFound "materialization" mat.text) m := by
  simp only [getMaterialization, Task.onBind, Task.onGet]
  cases m.materializations.find? mat <;> rfl

theorem deleteMaterializationOn (mat : MaterializationId) (m : Memory) :
    (deleteMaterialization mat).on m =
      if m.materializations.contains mat then (.ok (), m.dropMaterialization mat)
      else failed (.notFound "materialization" mat.text) m := by
  simp only [deleteMaterialization, Task.onBind, Task.onGet]
  split <;> rfl

theorem createTrainingSetOn (d : TrainingSetDef) (m : Memory) :
    (createTrainingSet d).on m =
      if m.trainingSets.contains d.id then failed (.alreadyExists "training set" d.id.text) m
      else
        match m.trainingRows d with
        | .error e => failed e m
        | .ok rows => (.ok (), m.putTrainingSet d.id rows) := by
  simp only [createTrainingSet, Task.onBind, Task.onGet]
  split
  · rfl
  · simp only [Task.onBind, Task.onExcept]
    cases m.trainingRows d <;> rfl

theorem updateTrainingSetOn (d : TrainingSetDef) (m : Memory) :
    (updateTrainingSet d).on m =
      match m.trainingRows d with
      | .error e => failed e m
      | .ok rows => (.ok (), m.putTrainingSet d.id rows) := by
  simp only [updateTrainingSet, Task.onBind, Task.onGet, Task.onExcept]
  cases m.trainingRows d <;> rfl

theorem getTrainingSetOn (id : ResourceId) (m : Memory) :
    (getTrainingSet id).on m =
      match m.trainingSets.find? id with
      | some rows => (.ok (rows.map .ok), m)
      | none => failed (.notFound "training set" id.text) m := by
  simp only [getTrainingSet, Task.onBind, Task.onGet]
  cases m.trainingSets.find? id <;> rfl

end Memory
end FeatureStore
