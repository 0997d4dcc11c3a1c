import FeatureStore.Online.Local
import FeatureStore.Proofs.Bindings
import FeatureStore.Proofs.Task

/-!
Tables of vectors. A batch goes in record by record: it stops at the first value that is no vector of
the right length, and what came before stays.
-/
namespace FeatureStore

namespace EmbeddingStore

def fits (dims : Nat) : FeatureValue → Bool
  | .floats items => items.length = dims
  | .ints items => items.length = dims
  | _ => false

def vector : FeatureValue → List Binary64
  | .floats items => items.map Binary64.toSingle
  | .ints items => items.map fun n => Binary64.singleOfInt n.toInt
  | _ => []

theorem vectorOfFits {dims : Nat} {value : FeatureValue} (entity : String)
    (fitting : fits dims value = true) : vectorOf dims entity value = .ok (vector value) := by
  cases value <;> simp_all [fits, vectorOf, components, vector, bind, Except.bind]

theorem vectorOfUnfit {dims : Nat} {value : FeatureValue} (entity : String)
    (unfit : ¬ fits dims value = true) : ∃ e, vectorOf dims entity value = .error e := by
  cases value <;> simp_all [fits, vectorOf, components, bind, Except.bind]

def fault? (dims : Nat) (records : List (String × FeatureValue)) : Option Error :=
  records.findSome? fun r =>
    match vectorOf dims r.1 r.2 with
    | .error e => some e
    | .ok _ => none

def kept (dims : Nat) (records : List (String × FeatureValue)) : List (String × List Binary64) :=
  (records.takeWhile fun r => fits dims r.2).map fun r => (r.1, vector r.2)

theorem faultNone {dims : Nat} {records : List (String × FeatureValue)} :
    fault? dims records = none ↔ ∀ r ∈ records, fits dims r.2 = true := by
  rw [fault?, List.findSome?_eq_none_iff]
  refine forall₂_congr fun r _ => ?_
  by_cases fitting : fits dims r.2 = true
  · simp [vectorOfFits r.1 fitting, fitting]
  · obtain ⟨e, refused⟩ := vectorOfUnfit r.1 fitting
    simp [refused, fitting]

def ending (fault : Option Error) : Except Failure Unit :=
  match fault with
  | none => .ok ()
  | some e => .error (.error e)

theorem batchGoesOn {dims : Nat} {value : FeatureValue} (entity : String)
    (fitting : fits dims value = true) (rest : List (String × FeatureValue)) :
    fault? dims ((entity, value) :: rest) = fault? dims rest ∧
      kept dims ((entity, value) :: rest) = (entity, vector value) :: kept dims rest := by
  simp [fault?, kept, vectorOfFits entity fitting, fitting]

theorem batchStops {dims : Nat} {entity : String} {value : FeatureValue} {e : Error}
    (unfit : ¬ fits dims value = true) (refused : vectorOf dims entity value = .error e)
    (rest : List (String × FeatureValue)) :
    fault? dims ((entity, value) :: rest) = some e ∧ kept dims ((entity, value) :: rest) = [] := by
  simp [fault?, kept, refused, unfit]

theorem setValueOn (dims : Nat) (entity : String) (value : FeatureValue) (v : Vectors) :
    ((Vectors.store dims).setValue entity value).on v =
      (ending (fault? dims [(entity, value)]), v.insertAll (kept dims [(entity, value)])) := by
  by_cases fitting : fits dims value = true
  · obtain ⟨passes, taken⟩ := batchGoesOn entity fitting []
    rw [passes, taken]
    simp only [setValue, Vectors.store, vectorOfFits entity fitting, Task.onBind, Task.onExcept,
      Task.mapErrorOk]
    rfl
  · obtain ⟨e, refused⟩ := vectorOfUnfit entity fitting
    obtain ⟨stops, nothing⟩ := batchStops fitting refused []
    rw [stops, nothing]
    simp only [setValue, Vectors.store, refused, Task.onBind, Task.onExcept]
    rfl

theorem setEachOn (dims : Nat) (records : List (String × FeatureValue)) (v : Vectors) :
    (OnlineTable.setEach (Vectors.store dims).setValue records).on v =
      (ending (fault? dims records), v.insertAll (kept dims records)) := by
  induction records generalizing v with
  | nil => rfl
  | cons r rest ih =>
    obtain ⟨entity, value⟩ := r
    have first := setValueOn dims entity value v
    simp only [OnlineTable.setEach, Task.onBind, first]
    by_cases fitting : fits dims value = true
    · obtain ⟨passes, takes⟩ := batchGoesOn entity fitting []
      obtain ⟨later, more⟩ := batchGoesOn entity fitting rest
      rw [passes, takes, later, more]
      exact ih (v.insert entity (vector value))
    · obtain ⟨e, refused⟩ := vectorOfUnfit entity fitting
      obtain ⟨stops, nothing⟩ := batchStops fitting refused []
      obtain ⟨stopped, nothingMore⟩ := batchStops fitting refused rest
      rw [stops, nothing, stopped, nothingMore]
      rfl

end EmbeddingStore

namespace LocalStore
open EmbeddingStore (kept fault? ending)

def addVectors (s : LocalStore) (records : List (String × List Binary64)) : LocalStore :=
  { s with vectors := s.vectors.insertAll records }

@[simp] theorem addVectorsNamed (s : LocalStore) (records : List (String × List Binary64)) (key : String) :
    (s.addVectors records).tableNamed? key = s.tableNamed? key := rfl

theorem addVectorsTwice (s : LocalStore) (a b : List (String × List Binary64)) :
    (s.addVectors a).addVectors b = s.addVectors (a ++ b) := by
  simp only [addVectors, Bindings.insertAllAppend]

theorem onVectorsOn {α : Type} (t : Task (StateM Vectors) α) (s : LocalStore) :
    (Task.lift onVectors t).on s = ((t.on s.vectors).1, { s with vectors := (t.on s.vectors).2 }) := rfl

theorem vectorSetOn (dims : Nat) (entity : String) (value : FeatureValue) (s : LocalStore) :
    ((vectorTable dims).set entity value).on s =
      (ending (fault? dims [(entity, value)]), s.addVectors (kept dims [(entity, value)])) := by
  have set := EmbeddingStore.setValueOn dims entity value s.vectors
  have lifted := onVectorsOn ((Vectors.store dims).setValue entity value) s
  rw [set] at lifted
  exact lifted

theorem vectorBatchOn (dims : Nat) (records : List (String × FeatureValue)) (s : LocalStore) :
    ((vectorTable dims).setBatch records).on s =
      (ending (fault? dims records), s.addVectors (kept dims records)) := by
  have each := EmbeddingStore.setEachOn dims records s.vectors
  have lifted := onVectorsOn (OnlineTable.setEach (Vectors.store dims).setValue records) s
  rw [each] at lifted
  exact lifted

theorem vectorGetOn (dims : Nat) (entity : String) (s : LocalStore) :
    ((vectorTable dims).get entity).on s =
      match s.vectors.find? entity with
      | some vector => (.ok (.floats vector), s)
      | none => (.error (.error (.notFound "embedding" entity)), s) := by
  have lifted : ((vectorTable dims).get entity).on s = _ :=
    onVectorsOn ((Vectors.store dims).table.get entity) s
  rw [lifted]
  simp only [EmbeddingStore.table, Vectors.store, Task.onBind, Task.onGetThe]
  cases s.vectors.find? entity <;> rfl

end LocalStore
end FeatureStore
