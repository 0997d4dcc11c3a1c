import FeatureStore.Online.Local
import FeatureStore.Proofs.Bindings
import FeatureStore.Proofs.Task

/-!
What each operation of the online store in memory answers, and the state that it leaves. Tables are
reached by name through `tableNamed?`; writing through a handle changes the entries of one place.
-/
namespace FeatureStore

namespace LocalStore

theorem createTableOn (dims : Option Nat) (feature variant : String) (type : ValueType)
    (s : LocalStore) :
    (createTable dims feature variant type).on s =
      if s.names.contains (onlineTableKey "" feature variant) then
        (.error (.error (.alreadyExists "online table" (onlineTableKey "" feature variant))), s)
      else
        (.ok (handle dims s.tables.length (newTable dims type)),
          { s with
            tables := s.tables ++ [newTable dims type]
            names := s.names.insert (onlineTableKey "" feature variant) s.tables.length }) := by
  simp only [createTable, Task.onBind, Task.onGet]
  split <;> simp [Task.onBind, Task.onMap, Except.map]

theorem getTableOn (dims : Option Nat) (feature variant : String) (s : LocalStore) :
    (getTable dims feature variant).on s =
      match s.tableNamed? (onlineTableKey "" feature variant) with
      | some (place, t) => (.ok (handle dims place t), s)
      | none => (.error (.error (.notFound "online table" (onlineTableKey "" feature variant))), s) := by
  simp only [getTable, Task.onBind, Task.onGet]
  rcases s.tableNamed? (onlineTableKey "" feature variant) with _ | ⟨place, t⟩ <;> rfl

theorem deleteTableOn (feature variant : String) (s : LocalStore) :
    (deleteTable feature variant).on s =
      if s.names.contains (onlineTableKey "" feature variant) then
        (.ok (), { s with names := s.names.erase (onlineTableKey "" feature variant) })
      else (.error (.error (.notFound "online table" (onlineTableKey "" feature variant))), s) := by
  simp only [deleteTable, Task.onBind, Task.onGet]
  split <;> rfl

theorem getOn (place : Nat) (entity : String) (s : LocalStore) :
    ((valueTable place).get entity).on s =
      match s.valueAt? place entity with
      | some value => (.ok value, s)
      | none => (.error (.error (.notFound "entity" entity)), s) := by
  simp only [valueTable, Task.onBind, Task.onGetThe]
  cases s.valueAt? place entity <;> rfl

theorem setOn (place : Nat) (entity : String) (value : FeatureValue) (s : LocalStore) :
    ((valueTable place).set entity value).on s =
      (.ok (), { s with tables := s.tables.modify place (setEntry entity value) }) := rfl

theorem setBatchOn (place : Nat) (records : List (String × FeatureValue)) (s : LocalStore) :
    ((valueTable place).setBatch records).on s =
      (.ok (), { s with tables := s.tables.modify place (setEntries records) }) := rfl

theorem setEntriesValues (records : List (String × FeatureValue)) (entries) :
    setEntries records (.values entries) = .values (entries.insertAll records) := by
  induction records generalizing entries with
  | nil => rfl
  | cons r rest ih => exact ih (entries.insert r.1 r.2)

theorem tableNamedIff {s : LocalStore} {key : String} {place : Nat} {t : LocalTable} :
    s.tableNamed? key = some (place, t) ↔ s.names.find? key = some place ∧ s.tables[place]? = some t := by
  simp only [tableNamed?, bind, Option.bind_eq_some_iff]
  constructor
  · rintro ⟨place, named, t, there, last⟩
    cases Option.some.inj last
    exact ⟨named, there⟩
  · rintro ⟨named, there⟩
    exact ⟨place, named, t, there, rfl⟩

theorem tableNamedNone {s : LocalStore} {key : String} (free : s.names.find? key = none) :
    s.tableNamed? key = none := by
  simp [tableNamed?, free]

end LocalStore
end FeatureStore
