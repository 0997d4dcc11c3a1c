import FeatureStore.Offline.Store

/-!
Clients of an offline store. A client calls one operation after another and reaches tables and
snapshots through the handles that its calls gave.
-/
namespace FeatureStore

/- Handles are named by the number of the call that gave them. -/
inductive OfflineCall where
  | createResource (id : ResourceId) (schema : TableSchema)
  | getResource (id : ResourceId)
  | registerResource (id : ResourceId) (schema : ResourceSchema)
  | write (handle : Nat) (r : ResourceRecord)
  | createPrimary (id : ResourceId) (schema : TableSchema)
  | getPrimary (id : ResourceId)
  | registerPrimary (id : ResourceId) (source : String)
  | writeRow (handle : Nat) (row : Row)
  | countRows (handle : Nat)
  | readRows (handle : Nat) (most : Int64)
  | createTransformation (c : TransformationConfig)
  | updateTransformation (c : TransformationConfig)
  | getTransformation (id : ResourceId)
  | createMaterialization (id : ResourceId)
  | updateMaterialization (id : ResourceId)
  | getMaterialization (mat : MaterializationId)
  | deleteMaterialization (mat : MaterializationId)
  | countRecords (handle : Nat)
  | readSegment (handle : Nat) (first last : Int64)
  | createTrainingSet (d : TrainingSetDef)
  | updateTrainingSet (d : TrainingSetDef)
  | getTrainingSet (id : ResourceId)

inductive OfflineHandle (m : Type → Type) where
  | resource (t : ResourceTable m)
  | primary (t : PrimaryTable m)
  | snapshot (t : Materialization m)

namespace OfflineCall
variable {m : Type → Type} [Monad m]

abbrev Outcome (m : Type → Type) := Bool × Option (OfflineHandle m)

def giving {α : Type} (wrap : α → OfflineHandle m) : Except Failure α → Outcome m
  | .ok a => (true, some (wrap a))
  | .error _ => (false, none)

def plain {α : Type} (result : Except Failure α) : Outcome m := (result.isOk, none)

def through (held : List (Option (OfflineHandle m))) (handle : Nat)
    (use : OfflineHandle m → Option (m (Outcome m))) : m (Outcome m) :=
  (held[handle]?.join.bind use).getD (pure (false, none))

def onResource {α : Type} (use : ResourceTable m → Task m α) : OfflineHandle m → Option (m (Outcome m))
  | .resource t => some do return plain (← (use t).run)
  | _ => none

def onPrimary {α : Type} (use : PrimaryTable m → Task m α) : OfflineHandle m → Option (m (Outcome m))
  | .primary t => some do return plain (← (use t).run)
  | _ => none

def onSnapshot {α : Type} (use : Materialization m → Task m α) :
    OfflineHandle m → Option (m (Outcome m))
  | .snapshot t => some do return plain (← (use t).run)
  | _ => none

def perform (store : OfflineStore m) (held : List (Option (OfflineHandle m))) :
    OfflineCall → m (Outcome m)
  | createResource id schema => do return giving .resource (← (store.createResource id schema).run)
  | getResource id => do return giving .resource (← (store.getResource id).run)
  | registerResource id schema => do return giving .resource (← (store.registerResource id schema).run)
  | write handle r => through held handle (onResource (·.write r))
  | createPrimary id schema => do return giving .primary (← (store.createPrimary id schema).run)
  | getPrimary id => do return giving .primary (← (store.getPrimary id).run)
  | registerPrimary id source => do return giving .primary (← (store.registerPrimary id source).run)
  | writeRow handle row => through held handle (onPrimary (·.write row))
  | countRows handle => through held handle (onPrimary (·.numRows))
  | readRows handle most => through held handle (onPrimary (·.rows most))
  | createTransformation c => do return plain (← (store.createTransformation c).run)
  | updateTransformation c => do return plain (← (store.updateTransformation c).run)
  | getTransformation id => do return giving .primary (← (store.getTransformation id).run)
  | createMaterialization id => do return giving .snapshot (← (store.createMaterialization id).run)
  | updateMaterialization id => do return giving .snapshot (← (store.updateMaterialization id).run)
  | getMaterialization mat => do return giving .snapshot (← (store.getMaterialization mat).run)
  | deleteMaterialization mat => do return plain (← (store.deleteMaterialization mat).run)
  | countRecords handle => through held handle (onSnapshot (·.numRows))
  | readSegment handle first last => through held handle (onSnapshot (·.segment first last))
  | createTrainingSet d => do return plain (← (store.createTrainingSet d).run)
  | updateTrainingSet d => do return plain (← (store.updateTrainingSet d).run)
  | getTrainingSet id => do return plain (← (store.getTrainingSet id).run)

end OfflineCall
end FeatureStore
