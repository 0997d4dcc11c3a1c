import FeatureStore.Table
import FeatureStore.Task
import FeatureStore.TrainingSet
import FeatureStore.Transformation

/-!
Offline stores: the tables that hold the history of features and labels, and what is built from them.
`create` fails when its target exists and `get` when it does not; `update` replaces what is there.
-/
namespace FeatureStore

structure ResourceTable (m : Type → Type) where
  id : ResourceId
  write : ResourceRecord → Task m Unit

structure PrimaryTable (m : Type → Type) where
  name : String
  write : Row → Task m Unit
  numRows : Task m Int64
  -- At most the given number of rows; a row that cannot be read stands as its error.
  rows : Int64 → Task m (List (Except Error Row))

structure Materialization (m : Type → Type) where
  id : MaterializationId
  numRows : Task m Int64
  segment : (first last : Int64) → Task m (List (Except Error ResourceRecord))

structure OfflineStore (m : Type → Type) where
  createResource : ResourceId → TableSchema → Task m (ResourceTable m)
  getResource : ResourceId → Task m (ResourceTable m)
  createPrimary : ResourceId → TableSchema → Task m (PrimaryTable m)
  getPrimary : ResourceId → Task m (PrimaryTable m)
  registerResource : ResourceId → ResourceSchema → Task m (ResourceTable m)
  registerPrimary : ResourceId → String → Task m (PrimaryTable m)
  createTransformation : TransformationConfig → Task m Unit
  updateTransformation : TransformationConfig → Task m Unit
  getTransformation : ResourceId → Task m (PrimaryTable m)
  createMaterialization : ResourceId → Task m (Materialization m)
  updateMaterialization : ResourceId → Task m (Materialization m)
  getMaterialization : MaterializationId → Task m (Materialization m)
  deleteMaterialization : MaterializationId → Task m Unit
  createTrainingSet : TrainingSetDef → Task m Unit
  updateTrainingSet : TrainingSetDef → Task m Unit
  getTrainingSet : ResourceId → Task m (List (Except Error TrainingSetRow))

variable {m n : Type → Type}

def ResourceTable.lift (f : ∀ {α}, m α → n α) (t : ResourceTable m) : ResourceTable n where
  id := t.id
  write r := Task.lift f (t.write r)

def PrimaryTable.lift (f : ∀ {α}, m α → n α) (t : PrimaryTable m) : PrimaryTable n where
  name := t.name
  write r := Task.lift f (t.write r)
  numRows := Task.lift f t.numRows
  rows most := Task.lift f (t.rows most)

def Materialization.lift (f : ∀ {α}, m α → n α) (t : Materialization m) : Materialization n where
  id := t.id
  numRows := Task.lift f t.numRows
  segment first last := Task.lift f (t.segment first last)

def OfflineStore.lift [Monad n] (f : ∀ {α}, m α → n α) (s : OfflineStore m) : OfflineStore n where
  createResource id schema := ResourceTable.lift f <$> Task.lift f (s.createResource id schema)
  getResource id := ResourceTable.lift f <$> Task.lift f (s.getResource id)
  createPrimary id schema := PrimaryTable.lift f <$> Task.lift f (s.createPrimary id schema)
  getPrimary id := PrimaryTable.lift f <$> Task.lift f (s.getPrimary id)
  registerResource id schema := ResourceTable.lift f <$> Task.lift f (s.registerResource id schema)
  registerPrimary id source := PrimaryTable.lift f <$> Task.lift f (s.registerPrimary id source)
  createTransformation c := Task.lift f (s.createTransformation c)
  updateTransformation c := Task.lift f (s.updateTransformation c)
  getTransformation id := PrimaryTable.lift f <$> Task.lift f (s.getTransformation id)
  createMaterialization id := Materialization.lift f <$> Task.lift f (s.createMaterialization id)
  updateMaterialization id := Materialization.lift f <$> Task.lift f (s.updateMaterialization id)
  getMaterialization id := Materialization.lift f <$> Task.lift f (s.getMaterialization id)
  deleteMaterialization id := Task.lift f (s.deleteMaterialization id)
  createTrainingSet d := Task.lift f (s.createTrainingSet d)
  updateTrainingSet d := Task.lift f (s.updateTrainingSet d)
  getTrainingSet id := Task.lift f (s.getTrainingSet id)

end FeatureStore
