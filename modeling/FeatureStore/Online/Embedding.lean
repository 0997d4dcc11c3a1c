import FeatureStore.Bindings
import FeatureStore.Online.Store

/-!
Tables of vectors over an embedding store. Vectors hold single precision: a value is rounded when it
is written, and every table of one embedding store has the same keys.
-/
namespace FeatureStore

structure EmbeddingStore (m : Type → Type) where
  dims : Nat
  set : String → List Binary64 → Task m Unit
  get : String → Task m (List Binary64)

namespace EmbeddingStore

def components (entity : String) : FeatureValue → Except Error (List Binary64)
  | .floats items => .ok (items.map Binary64.toSingle)
  | .ints items => .ok (items.map fun n => Binary64.singleOfInt n.toInt)
  | other => .error (.invalidInput
      ("embedding for '" ++ entity ++ "' must be a float array, got " ++ other.describe))

def vectorOf (dims : Nat) (entity : String) (value : FeatureValue) : Except Error (List Binary64) := do
  let vector ← components entity value
  if vector.length = dims then .ok vector
  else .error (.invalidInput ("embedding for '" ++ entity ++ "' has " ++ toString vector.length ++
    " dimensions, expected " ++ toString dims))

variable {m : Type → Type} [Monad m]

def setValue (s : EmbeddingStore m) (entity : String) (value : FeatureValue) : Task m Unit := do
  let vector ← Task.ofExcept (vectorOf s.dims entity value)
  s.set entity vector

def table (s : EmbeddingStore m) : OnlineTable m where
  set := s.setValue
  get entity := do return .floats (← s.get entity)
  setBatch := OnlineTable.setEach s.setValue

end EmbeddingStore

abbrev Vectors := Bindings String (List Binary64)

def Vectors.store (dims : Nat) : EmbeddingStore (StateM Vectors) where
  dims := dims
  set key vector := modify fun v => v.insert key vector
  get key := do
    match (← getThe Vectors).find? key with
    | some vector => return vector
    | none => Task.fail (.notFound "embedding" key)

end FeatureStore
