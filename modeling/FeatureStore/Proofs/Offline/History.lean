import FeatureStore.Offline.Memory
import FeatureStore.Proofs.Offline.Client

/-!
What a history of calls says about an offline store: the tables that were made, the records and rows
that were written to them, and the last call that built a snapshot or a training set. Nothing here
looks at a store; a history holds the calls and whether they succeeded, the newest first.
-/
namespace FeatureStore

abbrev History := List (OfflineCall × Bool)

namespace History

inductive Given where
  | resource (id : ResourceId)
  | primary (id : ResourceId)
  deriving DecidableEq

def gives? : OfflineCall → Option Given
  | .createResource id _ | .getResource id | .registerResource id _ => some (.resource id)
  | .createPrimary id _ | .getPrimary id | .registerPrimary id _ => some (.primary id)
  | _ => none

def giver (h : History) (number : Nat) : Option Given :=
  match h.reverse[number]? with
  | some (call, true) => gives? call
  | _ => none

def created : History → List (ResourceId × TableSchema)
  | [] => []
  | (.createPrimary id schema, true) :: before => created before ++ [(id, schema)]
  | _ :: before => created before

def named (h : History) (name : String) : Option Nat :=
  (created h).findIdx? fun t => Memory.tableName t.1 = name

def place? (id : ResourceId) : History → Option Nat
  | [] => none
  | (.createPrimary other _, true) :: before =>
    if other = id then some (created before).length else place? id before
  | (.registerPrimary other source, true) :: before =>
    if other = id then named before source else place? id before
  | _ :: before => place? id before

def rows (place : Nat) : History → List Row
  | [] => []
  | (.writeRow handle row, true) :: before =>
    match giver before handle with
    | some (.primary id) =>
      if place? id before = some place then rows place before ++ [row] else rows place before
    | _ => rows place before
  | _ :: before => rows place before

def table? (h : History) (place : Nat) : Option MemoryTable :=
  (created h)[place]?.map fun t => ⟨Memory.tableName t.1, t.2, rows place h⟩

inductive Origin where
  | owned
  | columns (schema : ResourceSchema) (place : Nat)

def origin? (id : ResourceId) : History → Option Origin
  | [] => none
  | (.createResource other _, true) :: before => if other = id then some .owned else origin? id before
  | (.registerResource other schema, true) :: before =>
    if other = id then (named before schema.sourceTable).map (.columns schema) else origin? id before
  | _ :: before => origin? id before

def written (id : ResourceId) : History → List ResourceRecord
  | [] => []
  | (.write handle r, true) :: before =>
    if giver before handle = some (.resource id) then written id before ++ [r] else written id before
  | _ :: before => written id before

def records (h : History) (id : ResourceId) : Except Error (List ResourceRecord) :=
  match origin? id h with
  | none => .error (.notFound "resource table" id.text)
  | some .owned => .ok (written id h)
  | some (.columns schema place) =>
    match table? h place with
    | some t => Memory.recordsOf t schema
    | none => .ok []

/- The feature of which a snapshot was last built since it was last deleted, and the history before. -/
def lastBuild (mat : MaterializationId) : History → Option (ResourceId × History)
  | [] => none
  | (.createMaterialization id, true) :: before =>
    if .ofResource id = mat then some (id, before) else lastBuild mat before
  | (.updateMaterialization id, true) :: before =>
    if .ofResource id = mat then some (id, before) else lastBuild mat before
  | (.deleteMaterialization other, true) :: before =>
    if other = mat then none else lastBuild mat before
  | _ :: before => lastBuild mat before

def lastTraining (id : ResourceId) : History → Option (TrainingSetDef × History)
  | [] => none
  | (.createTrainingSet d, true) :: before =>
    if d.id = id then some (d, before) else lastTraining id before
  | (.updateTrainingSet d, true) :: before =>
    if d.id = id then some (d, before) else lastTraining id before
  | _ :: before => lastTraining id before

structure SameTables (e : OfflineCall × Bool) (before : History) : Prop where
  created : created (e :: before) = created before
  place (id : ResourceId) : place? id (e :: before) = place? id before
  rows (place : Nat) : rows place (e :: before) = rows place before

structure SameResources (e : OfflineCall × Bool) (before : History) : Prop where
  origin (id : ResourceId) : origin? id (e :: before) = origin? id before
  written (id : ResourceId) : written id (e :: before) = written id before

structure SameBuilt (e : OfflineCall × Bool) (before : History) : Prop where
  build (mat : MaterializationId) : lastBuild mat (e :: before) = lastBuild mat before
  training (id : ResourceId) : lastTraining id (e :: before) = lastTraining id before

variable (call : OfflineCall) (before : History)

theorem failedTables : SameTables (call, false) before := by
  cases call <;> exact ⟨rfl, fun _ => rfl, fun _ => rfl⟩

theorem failedResources : SameResources (call, false) before := by
  cases call <;> exact ⟨fun _ => rfl, fun _ => rfl⟩

theorem failedBuilt : SameBuilt (call, false) before := by
  cases call <;> exact ⟨fun _ => rfl, fun _ => rfl⟩

theorem giverOld (h : History) (e : OfflineCall × Bool) {number : Nat} (old : number < h.length) :
    giver (e :: h) number = giver h number := by
  have inside : number < h.reverse.length := by simpa using old
  rw [giver, List.reverse_cons, List.getElem?_append_left inside, giver]

theorem giverNew (h : History) (call : OfflineCall) :
    giver ((call, true) :: h) h.length = gives? call := by
  have last : (((call, true) :: h).reverse)[h.length]? = some (call, true) := by simp
  rw [giver, last]

theorem namedCreated (h : History) (id : ResourceId) (schema : TableSchema) (name : String) :
    named ((.createPrimary id schema, true) :: h) name =
      (named h name).or (if Memory.tableName id = name then some (created h).length else none) := by
  simp only [named, created, List.findIdx?_append]
  congr 1
  by_cases same : Memory.tableName id = name <;> simp [List.findIdx?_cons, same]

end History
end FeatureStore
