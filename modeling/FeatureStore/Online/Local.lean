import FeatureStore.Online.Embedding
import FeatureStore.Provider.Basic

/-!
An online store in memory. A handle keeps its table after the table is deleted: tables have fixed
places, and a name leads to the place of the table that has it now.
-/
namespace FeatureStore

inductive LocalTable where
  | values (entries : Bindings String FeatureValue)
  | vectors
  deriving Repr

structure LocalStore where
  names : Bindings String Nat
  tables : List LocalTable
  vectors : Vectors
  deriving Repr

namespace LocalStore

def empty : LocalStore := ⟨.empty, [], .empty⟩

instance : Inhabited LocalStore := ⟨empty⟩

abbrev Action (α : Type) := Task (StateM LocalStore) α

def concreteName : String := "featureforge_providers::local::LocalOnlineStore"

def setEntry (entity : String) (value : FeatureValue) : LocalTable → LocalTable
  | .values entries => .values (entries.insert entity value)
  | .vectors => .vectors

def setEntries (records : List (String × FeatureValue)) (t : LocalTable) : LocalTable :=
  records.foldl (fun t r => setEntry r.1 r.2 t) t

def valueAt? (s : LocalStore) (place : Nat) (entity : String) : Option FeatureValue :=
  match s.tables[place]? with
  | some (.values entries) => entries.find? entity
  | _ => none

def valueTable (place : Nat) : OnlineTable (StateM LocalStore) where
  set entity value := modify fun s => { s with tables := s.tables.modify place (setEntry entity value) }
  get entity := do
    match (← getThe LocalStore).valueAt? place entity with
    | some value => return value
    | none => Task.fail (.notFound "entity" entity)
  setBatch records := modify fun s => { s with tables := s.tables.modify place (setEntries records) }

def onVectors {α : Type} (a : StateM Vectors α) : StateM LocalStore α := fun s =>
  let (value, vectors) := a.run s.vectors
  (value, { s with vectors := vectors })

def vectorTable (dims : Nat) : OnlineTable (StateM LocalStore) :=
  OnlineTable.lift onVectors (Vectors.store dims).table

def handle (dims : Option Nat) (place : Nat) : LocalTable → OnlineTable (StateM LocalStore)
  | .values _ => valueTable place
  | .vectors => vectorTable (dims.getD 0)

def newTable (dims : Option Nat) (type : ValueType) : LocalTable :=
  if type = .floatVector ∧ dims.isSome then .vectors else .values .empty

def createTable (dims : Option Nat) (feature variant : String) (type : ValueType) :
    Action (OnlineTable (StateM LocalStore)) := do
  let key := onlineTableKey "" feature variant
  let s ← get
  if s.names.contains key then Task.fail (.alreadyExists "online table" key)
  let t := newTable dims type
  let place := s.tables.length
  set { s with tables := s.tables ++ [t], names := s.names.insert key place }
  return handle dims place t

def tableNamed? (s : LocalStore) (key : String) : Option (Nat × LocalTable) := do
  let place ← s.names.find? key
  let t ← s.tables[place]?
  return (place, t)

def getTable (dims : Option Nat) (feature variant : String) :
    Action (OnlineTable (StateM LocalStore)) := do
  let key := onlineTableKey "" feature variant
  match tableNamed? (← get) key with
  | some (place, t) => return handle dims place t
  | none => Task.fail (.notFound "online table" key)

def deleteTable (feature variant : String) : Action Unit := do
  let key := onlineTableKey "" feature variant
  let s ← get
  if s.names.contains key then set { s with names := s.names.erase key }
  else Task.fail (.notFound "online table" key)

def store (dims : Option Nat) : OnlineStore (StateM LocalStore) where
  createTable := createTable dims
  getTable := getTable dims
  deleteTable := deleteTable

def provider (dims : Option Nat) (config : SerializedConfig) : Provider (StateM LocalStore) :=
  .ofOnline .localOnline concreteName config (store dims)

end LocalStore
end FeatureStore
