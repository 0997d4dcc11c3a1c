import FeatureStore.Proofs.Offline.Tables

/-!
A client of the store in memory, and everything that one call of it can change. A call that fails leaves
the store as it was; `Change` lists what one that succeeds does, with what it found before. Later modules
go through the cases of `Change` and open no operation.
-/
namespace FeatureStore
open Memory History OfflineCall

structure OfflineSession where
  memory : Memory
  held : List (Option (OfflineHandle (StateM Memory)))
  history : History

namespace OfflineSession

def start : OfflineSession := ⟨.empty, [], []⟩

def step (x : OfflineSession) (call : OfflineCall) : OfflineSession :=
  let performed := (call.perform Memory.store x.held).run x.memory
  ⟨performed.2, x.held ++ [performed.1.2], (call, performed.1.1) :: x.history⟩

def run (calls : List OfflineCall) : OfflineSession := calls.foldl step start

def Shows (h : History) (m : Memory) (number : Nat) : OfflineHandle (StateM Memory) → Prop
  | .resource t => ∃ id source, giver h number = some (.resource id) ∧
      m.resources.find? id = some source ∧ t = resourceTable id source
  | .primary t => ∃ id place table, giver h number = some (.primary id) ∧
      m.primaries.find? id = some place ∧ m.tables[place]? = some table ∧ t = primaryTable place table
  | .snapshot t => ∃ mat rows, t = materialization mat rows

end OfflineSession

def OfflineCall.Looks : OfflineCall → Prop
  | countRows _ | readRows _ _ | countRecords _ | readSegment _ _ _ | getTrainingSet _ => True
  | _ => False

namespace OfflineSession

/-- What a call that succeeds does to the store, and the handle that it gives. -/
inductive Change (x : OfflineSession) :
    OfflineCall → Option (OfflineHandle (StateM Memory)) → Memory → Prop
  | createResource {id : ResourceId} {schema : TableSchema}
      (new : x.memory.resources.contains id = false) :
      Change x (.createResource id schema) (some (.resource (resourceTable id (.owned []))))
        (x.memory.putResource id (.owned []))
  | getResource {id : ResourceId} {source : RecordSource}
      (found : x.memory.resources.find? id = some source) :
      Change x (.getResource id) (some (.resource (resourceTable id source))) x.memory
  | registerResource {id : ResourceId} {schema : ResourceSchema} {place : Nat} {t : MemoryTable}
      (new : x.memory.resources.contains id = false)
      (found : primaryNamed? x.memory schema.sourceTable = some (place, t))
      (columns : checkColumns t schema.sourceTable schema.columns = .ok ()) :
      Change x (.registerResource id schema) (some (.resource (resourceTable id (.columns schema place))))
        (x.memory.putResource id (.columns schema place))
  | write {handle : Nat} {r : ResourceRecord} {id : ResourceId} {records : List ResourceRecord}
      (given : giver x.history handle = some (.resource id))
      (owned : x.memory.resources.find? id = some (.owned records)) (entity : r.entity ≠ "") :
      Change x (.write handle r) none (x.memory.addRecord id r)
  | createPrimary {id : ResourceId} {schema : TableSchema}
      (new : x.memory.primaries.contains id = false) :
      Change x (.createPrimary id schema)
        (some (.primary (primaryTable x.memory.tables.length ⟨tableName id, schema, []⟩)))
        (x.memory.addTable id ⟨tableName id, schema, []⟩)
  | getPrimary {id : ResourceId} {place : Nat} {t : MemoryTable}
      (shown : x.memory.primaries.find? id = some place) (there : x.memory.tables[place]? = some t) :
      Change x (.getPrimary id) (some (.primary (primaryTable place t))) x.memory
  | registerPrimary {id : ResourceId} {source : String} {place : Nat} {t : MemoryTable}
      (new : x.memory.primaries.contains id = false)
      (found : primaryNamed? x.memory source = some (place, t)) :
      Change x (.registerPrimary id source) (some (.primary (primaryTable place t)))
        (x.memory.putPrimary id place)
  | writeRow {handle : Nat} {row : Row} {id : ResourceId} {place : Nat} {t : MemoryTable}
      (given : giver x.history handle = some (.primary id))
      (shown : x.memory.primaries.find? id = some place) (there : x.memory.tables[place]? = some t)
      (whole : row.length = t.schema.columns.length) :
      Change x (.writeRow handle row) none (x.memory.addRow place row)
  | createMaterialization {id : ResourceId} {rows : List ResourceRecord}
      (made : x.memory.snapshot id = .ok rows) :
      Change x (.createMaterialization id) (some (.snapshot (materialization (.ofResource id) rows)))
        (x.memory.putMaterialization (.ofResource id) rows)
  | updateMaterialization {id : ResourceId} {rows : List ResourceRecord}
      (made : x.memory.snapshot id = .ok rows) :
      Change x (.updateMaterialization id) (some (.snapshot (materialization (.ofResource id) rows)))
        (x.memory.putMaterialization (.ofResource id) rows)
  | getMaterialization {mat : MaterializationId} {rows : List ResourceRecord} :
      Change x (.getMaterialization mat) (some (.snapshot (materialization mat rows))) x.memory
  | deleteMaterialization {mat : MaterializationId} :
      Change x (.deleteMaterialization mat) none (x.memory.dropMaterialization mat)
  | createTrainingSet {d : TrainingSetDef} {rows : List TrainingSetRow}
      (made : x.memory.trainingRows d = .ok rows) :
      Change x (.createTrainingSet d) none (x.memory.putTrainingSet d.id rows)
  | updateTrainingSet {d : TrainingSetDef} {rows : List TrainingSetRow}
      (made : x.memory.trainingRows d = .ok rows) :
      Change x (.updateTrainingSet d) none (x.memory.putTrainingSet d.id rows)
  | looks {call : OfflineCall} (looks : call.Looks) : Change x call none x.memory

def Accounted (x : OfflineSession) (call : OfflineCall) : Prop :=
  (call.perform Memory.store x.held).run x.memory = ((false, none), x.memory) ∨
    ∃ handle after, (call.perform Memory.store x.held).run x.memory = ((true, handle), after) ∧
      x.Change call handle after

namespace Accounted
variable (x : OfflineSession)

theorem createResource (id : ResourceId) (schema : TableSchema) :
    x.Accounted (.createResource id schema) := by
  have performed := Task.onAnswer (giving .resource) (Memory.createResource id schema) x.memory
  rw [createResourceOn] at performed
  split at performed
  · exact .inl performed
  · exact .inl performed
  · split at performed
    · exact .inl performed
    · rename_i new
      exact .inr ⟨_, _, performed, .createResource (by simpa using new)⟩

theorem getResource (id : ResourceId) : x.Accounted (.getResource id) := by
  have performed := Task.onAnswer (giving .resource) (Memory.getResource id) x.memory
  rw [getResourceOn] at performed
  split at performed
  · rename_i found
    exact .inr ⟨_, _, performed, .getResource found⟩
  · exact .inl performed

theorem registerResource (id : ResourceId) (schema : ResourceSchema) :
    x.Accounted (.registerResource id schema) := by
  have performed := Task.onAnswer (giving .resource) (Memory.registerResource id schema) x.memory
  rw [registerResourceOn] at performed
  split at performed
  · exact .inl performed
  split at performed
  · exact .inl performed
  rename_i new
  split at performed
  · exact .inl performed
  rename_i found
  split at performed
  · exact .inl performed
  rename_i columns
  exact .inr ⟨_, _, performed, .registerResource (by simpa using new) found columns⟩

theorem createPrimary (id : ResourceId) (schema : TableSchema) :
    x.Accounted (.createPrimary id schema) := by
  have performed := Task.onAnswer (giving .primary) (Memory.createPrimary id schema) x.memory
  rw [createPrimaryOn] at performed
  split at performed
  · exact .inl performed
  split at performed
  · exact .inl performed
  split at performed
  · exact .inl performed
  rename_i new
  exact .inr ⟨_, _, performed, .createPrimary (by simpa using new)⟩

theorem getPrimary (id : ResourceId) : x.Accounted (.getPrimary id) := by
  have performed := Task.onAnswer (giving .primary) (Memory.getPrimary id) x.memory
  rw [getPrimaryOn] at performed
  split at performed
  · rename_i place t found
    obtain ⟨shown, there⟩ := primaryAtIff.mp found
    exact .inr ⟨_, _, performed, .getPrimary shown there⟩
  · exact .inl performed

theorem registerPrimary (id : ResourceId) (source : String) : x.Accounted (.registerPrimary id source) := by
  have performed := Task.onAnswer (giving .primary) (Memory.registerPrimary id source) x.memory
  rw [registerPrimaryOn] at performed
  split at performed
  · exact .inl performed
  split at performed
  · exact .inl performed
  rename_i new
  split at performed
  · exact .inl performed
  rename_i found
  exact .inr ⟨_, _, performed, .registerPrimary (by simpa using new) found⟩

theorem createMaterialization (id : ResourceId) : x.Accounted (.createMaterialization id) := by
  have performed := Task.onAnswer (giving .snapshot) (Memory.createMaterialization id) x.memory
  rw [createMaterializationOn] at performed
  split at performed
  · exact .inl performed
  split at performed
  · exact .inl performed
  rename_i made
  exact .inr ⟨_, _, performed, .createMaterialization made⟩

theorem updateMaterialization (id : ResourceId) : x.Accounted (.updateMaterialization id) := by
  have performed := Task.onAnswer (giving .snapshot) (Memory.updateMaterialization id) x.memory
  rw [updateMaterializationOn] at performed
  split at performed
  · exact .inl performed
  rename_i made
  exact .inr ⟨_, _, performed, .updateMaterialization made⟩

theorem getMaterialization (mat : MaterializationId) : x.Accounted (.getMaterialization mat) := by
  have performed := Task.onAnswer (giving .snapshot) (Memory.getMaterialization mat) x.memory
  rw [getMaterializationOn] at performed
  split at performed
  · exact .inr ⟨_, _, performed, .getMaterialization⟩
  · exact .inl performed

theorem deleteMaterialization (mat : MaterializationId) : x.Accounted (.deleteMaterialization mat) := by
  have performed := Task.onAnswer (plain (m := StateM Memory)) (Memory.deleteMaterialization mat) x.memory
  rw [deleteMaterializationOn] at performed
  split at performed
  · exact .inr ⟨_, _, performed, .deleteMaterialization⟩
  · exact .inl performed

theorem createTrainingSet (d : TrainingSetDef) : x.Accounted (.createTrainingSet d) := by
  have performed := Task.onAnswer (plain (m := StateM Memory)) (Memory.createTrainingSet d) x.memory
  rw [createTrainingSetOn] at performed
  split at performed
  · exact .inl performed
  split at performed
  · exact .inl performed
  rename_i made
  exact .inr ⟨_, _, performed, .createTrainingSet made⟩

theorem updateTrainingSet (d : TrainingSetDef) : x.Accounted (.updateTrainingSet d) := by
  have performed := Task.onAnswer (plain (m := StateM Memory)) (Memory.updateTrainingSet d) x.memory
  rw [updateTrainingSetOn] at performed
  split at performed
  · exact .inl performed
  rename_i made
  exact .inr ⟨_, _, performed, .updateTrainingSet made⟩

theorem getTrainingSet (id : ResourceId) : x.Accounted (.getTrainingSet id) := by
  have performed := Task.onAnswer (plain (m := StateM Memory)) (Memory.getTrainingSet id) x.memory
  rw [getTrainingSetOn] at performed
  split at performed
  · exact .inr ⟨_, _, performed, .looks trivial⟩
  · exact .inl performed

variable {x}

theorem throughHandle
    (handles : ∀ {number t}, x.held[number]?.join = some t → Shows x.history x.memory number t)
    {call : OfflineCall} {handle : Nat}
    {use : OfflineHandle (StateM Memory) → Option (StateM Memory (OfflineCall.Outcome (StateM Memory)))}
    (performs : call.perform Memory.store x.held = through x.held handle use)
    (used : ∀ t action, Shows x.history x.memory handle t → use t = some action →
      action.run x.memory = ((false, none), x.memory) ∨
        ∃ after, action.run x.memory = ((true, none), after) ∧ x.Change call none after) :
    x.Accounted call := by
  have performed := congrArg (fun action => StateT.run action x.memory) performs
  simp only [through] at performed
  cases found : x.held[handle]?.join with
  | none =>
    rw [found] at performed
    exact .inl performed
  | some t =>
    cases action : use t with
    | none =>
      rw [found, Option.bind_some, action] at performed
      exact .inl performed
    | some act =>
      rw [found, Option.bind_some, action, Option.getD_some] at performed
      rcases used t act (handles found) action with refused | ⟨after, ran, change⟩
      · exact .inl (performed.trans refused)
      · exact .inr ⟨none, after, performed.trans ran, change⟩

variable (handles : ∀ {number t}, x.held[number]?.join = some t → Shows x.history x.memory number t)
include handles

theorem write (handle : Nat) (r : ResourceRecord) : x.Accounted (.write handle r) := by
  refine throughHandle handles rfl fun t action shows used => ?_
  cases t with
  | resource t =>
    -- The handle may be older than the last write: what it shows now is the table as it is.
    obtain ⟨id, source, given, there, rfl⟩ := shows
    cases used
    cases source with
    | columns schema place => exact .inl rfl
    | owned records =>
      have wrote := Task.onAnswer (plain (m := StateM Memory)) (writeOwned id r) x.memory
      rw [writeOwnedOn] at wrote
      split at wrote
      · exact .inl wrote
      · rename_i passed
        refine .inr ⟨_, wrote, .write given there fun empty => ?_⟩
        simp [ResourceRecord.check, empty] at passed
  | _ => cases used

theorem writeRow (handle : Nat) (row : Row) : x.Accounted (.writeRow handle row) := by
  refine throughHandle handles rfl fun t action shows used => ?_
  cases t with
  | primary t =>
    obtain ⟨id, place, table, given, shown, there, rfl⟩ := shows
    cases used
    have wrote := Task.onAnswer (plain (m := StateM Memory)) (Memory.writeRow place table row) x.memory
    rw [writeRowOn] at wrote
    split at wrote
    · exact .inl wrote
    · rename_i whole
      exact .inr ⟨_, wrote, .writeRow given shown there (by simpa using whole)⟩
  | _ => cases used

theorem lookPrimary {call : OfflineCall} (looks : call.Looks) {handle : Nat} {α : Type}
    {use : PrimaryTable (StateM Memory) → Task (StateM Memory) α}
    (performs : call.perform Memory.store x.held = through x.held handle (onPrimary use))
    (reads : ∀ place table, ((use (primaryTable place table)).on x.memory).2 = x.memory) :
    x.Accounted call := by
  refine throughHandle handles performs fun t action shows used => ?_
  cases t with
  | primary t =>
    obtain ⟨id, place, table, -, -, -, rfl⟩ := shows
    cases used
    have ran := Task.onAnswer (plain (m := StateM Memory)) (use (primaryTable place table)) x.memory
    rw [reads place table] at ran
    cases answer : ((use (primaryTable place table)).on x.memory).1 with
    | error e => exact .inl (by rw [ran, answer]; rfl)
    | ok a => exact .inr ⟨_, by rw [ran, answer]; rfl, .looks looks⟩
  | _ => cases used

theorem lookSnapshot {call : OfflineCall} (looks : call.Looks) {handle : Nat} {α : Type}
    {use : Materialization (StateM Memory) → Task (StateM Memory) α}
    (performs : call.perform Memory.store x.held = through x.held handle (onSnapshot use))
    (reads : ∀ mat rows, ((use (materialization mat rows)).on x.memory).2 = x.memory) :
    x.Accounted call := by
  refine throughHandle handles performs fun t action shows used => ?_
  cases t with
  | snapshot t =>
    obtain ⟨mat, rows, rfl⟩ := shows
    cases used
    have ran := Task.onAnswer (plain (m := StateM Memory)) (use (materialization mat rows)) x.memory
    rw [reads mat rows] at ran
    cases answer : ((use (materialization mat rows)).on x.memory).1 with
    | error e => exact .inl (by rw [ran, answer]; rfl)
    | ok a => exact .inr ⟨_, by rw [ran, answer]; rfl, .looks looks⟩
  | _ => cases used

theorem readSegment (handle : Nat) (first last : Int64) :
    x.Accounted (.readSegment handle first last) := by
  refine lookSnapshot handles trivial rfl fun mat rows => ?_
  simp only [materialization, Task.onBind, Task.onExcept]
  cases segmentOf mat rows first last with
  | error e => rfl
  | ok records => rfl

theorem all (call : OfflineCall) : x.Accounted call := by
  cases call with
  | createResource id schema => exact createResource x id schema
  | getResource id => exact getResource x id
  | registerResource id schema => exact registerResource x id schema
  | write handle r => exact write handles handle r
  | createPrimary id schema => exact createPrimary x id schema
  | getPrimary id => exact getPrimary x id
  | registerPrimary id source => exact registerPrimary x id source
  | writeRow handle row => exact writeRow handles handle row
  | countRows handle => exact lookPrimary handles trivial rfl fun place t => rfl
  | readRows handle most => exact lookPrimary handles trivial rfl fun place t => rfl
  | createTransformation c => exact .inl rfl
  | updateTransformation c => exact .inl rfl
  | getTransformation id => exact .inl rfl
  | createMaterialization id => exact createMaterialization x id
  | updateMaterialization id => exact updateMaterialization x id
  | getMaterialization mat => exact getMaterialization x mat
  | deleteMaterialization mat => exact deleteMaterialization x mat
  | countRecords handle => exact lookSnapshot handles trivial rfl fun mat rows => rfl
  | readSegment handle first last => exact readSegment handles handle first last
  | createTrainingSet d => exact createTrainingSet x d
  | updateTrainingSet d => exact updateTrainingSet x d
  | getTrainingSet id => exact getTrainingSet x id

end Accounted
end OfflineSession
end FeatureStore
