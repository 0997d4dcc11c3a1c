import FeatureStore.Task
import FeatureStore.Value

/-!
Online stores: tables from entities to values, one for each variant of a feature.
-/
namespace FeatureStore

structure OnlineTable (m : Type → Type) where
  set : String → FeatureValue → Task m Unit
  -- Fails with `notFound` for an entity that was never set.
  get : String → Task m FeatureValue
  setBatch : List (String × FeatureValue) → Task m Unit

structure OnlineStore (m : Type → Type) where
  createTable : (feature variant : String) → ValueType → Task m (OnlineTable m)
  getTable : (feature variant : String) → Task m (OnlineTable m)
  deleteTable : (feature variant : String) → Task m Unit

def OnlineTable.setEach [Monad m] (set : String → FeatureValue → Task m Unit) :
    List (String × FeatureValue) → Task m Unit
  | [] => pure ()
  | (entity, value) :: rest => do
    set entity value
    setEach set rest

def onlineTableKey (scope feature variant : String) : String :=
  scope ++ feature ++ "__" ++ variant

variable {m n : Type → Type}

def OnlineTable.lift (f : ∀ {α}, m α → n α) (t : OnlineTable m) : OnlineTable n where
  set entity value := Task.lift f (t.set entity value)
  get entity := Task.lift f (t.get entity)
  setBatch records := Task.lift f (t.setBatch records)

def OnlineStore.lift [Monad n] (f : ∀ {α}, m α → n α) (s : OnlineStore m) : OnlineStore n where
  createTable feature variant type := OnlineTable.lift f <$> Task.lift f (s.createTable feature variant type)
  getTable feature variant := OnlineTable.lift f <$> Task.lift f (s.getTable feature variant)
  deleteTable feature variant := Task.lift f (s.deleteTable feature variant)

end FeatureStore
