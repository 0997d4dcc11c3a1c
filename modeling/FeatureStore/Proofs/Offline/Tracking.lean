import FeatureStore.Proofs.Offline.Tables

/-!
The records, snapshots and training sets of the store in memory are those that the history of calls
tells of: a snapshot holds what was written before the call that built it last.
-/
namespace FeatureStore
open Memory History

variable {h : History} {m : Memory}

def sourceOf (h : History) (id : ResourceId) : Origin → RecordSource
  | .owned => .owned (written id h)
  | .columns schema place => .columns schema place

structure TracksResources (h : History) (m : Memory) : Prop where
  resources (id : ResourceId) : m.resources.find? id = (origin? id h).map (sourceOf h id)
  unwritten (id : ResourceId) : origin? id h = none → written id h = []
  checked (id : ResourceId) : ∀ r ∈ written id h, r.entity ≠ ""

namespace TracksResources

theorem start : TracksResources [] .empty := ⟨fun _ => rfl, fun _ _ => rfl, fun _ => by simp [written]⟩

theorem same {e : OfflineCall × Bool} (tracks : TracksResources h m) (same : SameResources e h)
    {after : Memory} (resources : after.resources = m.resources) : TracksResources (e :: h) after := by
  refine ⟨fun id => ?_, fun id none => ?_, fun id => ?_⟩
  · rw [resources, tracks.resources, same.origin]
    cases origin? id h with
    | none => rfl
    | some origin => cases origin <;> simp [sourceOf, same.written]
  · rw [same.written]
    exact tracks.unwritten id (same.origin id ▸ none)
  · rw [same.written]
    exact tracks.checked id

theorem newResource (tracks : TracksResources h m) {id : ResourceId}
    (new : m.resources.contains id = false) : origin? id h = none := by
  have absent := tracks.resources id
  rw [Bindings.notContainsIff.mp new] at absent
  exact Option.map_eq_none_iff.mp absent.symm

theorem createResource (tracks : TracksResources h m) {id : ResourceId} (schema : TableSchema)
    (new : m.resources.contains id = false) :
    TracksResources ((.createResource id schema, true) :: h) (m.putResource id (.owned [])) := by
  have writtenSame (other : ResourceId) :
      written other ((.createResource id schema, true) :: h) = written other h := rfl
  have fresh := tracks.unwritten id (tracks.newResource new)
  refine ⟨fun other => ?_, fun other none => ?_, tracks.checked⟩
  · simp only [putResource, Bindings.findInsert, origin?, tracks.resources]
    split
    · rename_i here
      subst here
      simp only [Option.map_some, sourceOf, writtenSame, fresh]
    · rfl
  · simp only [origin?] at none
    split at none <;> try contradiction
    exact tracks.unwritten other none

theorem registerResource (tracks : TracksResources h m) {id : ResourceId} {schema : ResourceSchema}
    {place : Nat} (led : named h schema.sourceTable = some place) :
    TracksResources ((.registerResource id schema, true) :: h)
      (m.putResource id (.columns schema place)) := by
  refine ⟨fun other => ?_, fun other none => ?_, tracks.checked⟩
  · simp only [putResource, Bindings.findInsert, origin?, tracks.resources, led]
    split <;> rfl
  · simp only [origin?, led] at none
    split at none <;> try contradiction
    exact tracks.unwritten other none

theorem write (tracks : TracksResources h m) {id : ResourceId} {handle : Nat}
    (given : giver h handle = some (.resource id)) {records : List ResourceRecord}
    (owned : m.resources.find? id = some (.owned records)) {r : ResourceRecord} (entity : r.entity ≠ "") :
    TracksResources ((.write handle r, true) :: h) (m.addRecord id r) := by
  have writes (other : ResourceId) : written other ((.write handle r, true) :: h) =
      if id = other then written other h ++ [r] else written other h := by
    simp only [written, given, Option.some.injEq, Given.resource.injEq]
  have own := tracks.resources id
  rw [owned] at own
  refine ⟨fun other => ?_, fun other none => ?_, fun other => ?_⟩
  · simp only [addRecordOwned owned, putResource, Bindings.findInsert, tracks.resources]
    have originSame : origin? other ((.write handle r, true) :: h) = origin? other h := rfl
    rw [originSame]
    by_cases here : id = other
    · subst here
      cases origin : origin? id h with
      | none => simp [origin] at own
      | some source =>
        cases source with
        | owned =>
          simp only [origin, Option.map_some, sourceOf, Option.some.injEq, RecordSource.owned.injEq] at own
          simp [sourceOf, writes, own]
        | columns schema place => simp [origin, sourceOf] at own
    · rw [if_neg here]
      cases origin? other h with
      | none => rfl
      | some source => cases source <;> simp [sourceOf, writes, here]
  · have apart : id ≠ other := by
      rintro rfl
      have absent : origin? id h = .none := none
      simp [absent] at own
    rw [writes, if_neg apart]
    exact tracks.unwritten other none
  · rw [writes]
    split
    · intro last mem
      rcases List.mem_append.mp mem with old | new
      · exact tracks.checked other last old
      · rw [List.mem_singleton.mp new]
        exact entity
    · exact tracks.checked other

end TracksResources

theorem recordsTracked (tables : TracksTables h m) (resources : TracksResources h m)
    (id : ResourceId) : m.records id = records h id := by
  rw [Memory.records, resources.resources, History.records]
  cases origin? id h with
  | none => rfl
  | some origin =>
    cases origin with
    | owned => rfl
    | columns schema place =>
      have same := tables.tables place
      cases found : table? h place with
      | none =>
        rw [found] at same
        simp only [Option.map_some, sourceOf, same, found]
      | some t =>
        rw [found] at same
        simp only [Option.map_some, sourceOf, same, found]

def BuiltAs (h : History) (mat : MaterializationId) (rows : Option (List ResourceRecord)) : Prop :=
  match lastBuild mat h with
  | none => rows = none
  | some (id, before) =>
    ∃ written, records before id = .ok written ∧ rows = some (ResourceRecord.latestPerEntity written)

def JoinedAs (h : History) (id : ResourceId) (rows : Option (List TrainingSetRow)) : Prop :=
  match lastTraining id h with
  | none => rows = none
  | some (d, before) =>
    ∃ labels features, records before d.label = .ok labels ∧
      d.features.mapM (records before) = .ok features ∧ rows = some (joinTrainingSet labels features)

structure TracksBuilt (h : History) (m : Memory) : Prop where
  snapshots (mat : MaterializationId) : BuiltAs h mat (m.materializations.find? mat)
  trainings (id : ResourceId) : JoinedAs h id (m.trainingSets.find? id)

namespace TracksBuilt

theorem start : TracksBuilt [] .empty := ⟨fun _ => rfl, fun _ => rfl⟩

theorem same {e : OfflineCall × Bool} (tracks : TracksBuilt h m) (same : SameBuilt e h) {after : Memory}
    (materializations : after.materializations = m.materializations)
    (trainingSets : after.trainingSets = m.trainingSets) : TracksBuilt (e :: h) after := by
  refine ⟨fun mat => ?_, fun id => ?_⟩
  · rw [BuiltAs, same.build, materializations]
    exact tracks.snapshots mat
  · rw [JoinedAs, same.training, trainingSets]
    exact tracks.trainings id

theorem snapshotRecords (known : ∀ id, m.records id = records h id) {id : ResourceId}
    {rows : List ResourceRecord} (built : m.snapshot id = .ok rows) :
    ∃ written, records h id = .ok written ∧ rows = ResourceRecord.latestPerEntity written := by
  simp only [Memory.snapshot, bind, Except.bind, known] at built
  split at built <;> try contradiction
  cases found : records h id with
  | error e => simp [found, Except.map] at built
  | ok written =>
    simp only [found, Except.map, Except.ok.injEq] at built
    exact ⟨written, rfl, built.symm⟩

theorem trainingRecords (known : ∀ id, m.records id = records h id) {d : TrainingSetDef}
    {rows : List TrainingSetRow} (built : m.trainingRows d = .ok rows) :
    ∃ labels features, records h d.label = .ok labels ∧
      d.features.mapM (records h) = .ok features ∧ rows = joinTrainingSet labels features := by
  have same : m.records = records h := funext known
  simp only [Memory.trainingRows, bind, Except.bind, same] at built
  split at built <;> try contradiction
  split at built <;> try contradiction
  rename_i labels labelled
  split at built <;> try contradiction
  rename_i features collected
  cases built
  exact ⟨labels, features, labelled, collected, rfl⟩

theorem build (tracks : TracksBuilt h m) (known : ∀ id, m.records id = records h id) {id : ResourceId}
    {rows : List ResourceRecord} (built : m.snapshot id = .ok rows) {call : OfflineCall}
    (builds : ∀ mat, lastBuild mat ((call, true) :: h) =
      if .ofResource id = mat then some (id, h) else lastBuild mat h)
    (keeps : ∀ id, lastTraining id ((call, true) :: h) = lastTraining id h) :
    TracksBuilt ((call, true) :: h) (m.putMaterialization (.ofResource id) rows) := by
  refine ⟨fun mat => ?_, fun other => ?_⟩
  · by_cases here : MaterializationId.ofResource id = mat
    · simp only [BuiltAs, builds, putMaterialization, Bindings.findInsert, if_pos here]
      obtain ⟨written, found, same⟩ := snapshotRecords known built
      exact ⟨written, found, congrArg some same⟩
    · simp only [BuiltAs, builds, putMaterialization, Bindings.findInsert, if_neg here]
      exact tracks.snapshots mat
  · rw [JoinedAs, keeps]
    exact tracks.trainings other

theorem drop (tracks : TracksBuilt h m) (mat : MaterializationId) :
    TracksBuilt ((.deleteMaterialization mat, true) :: h) (m.dropMaterialization mat) := by
  refine ⟨fun other => ?_, tracks.trainings⟩
  by_cases here : mat = other
  · simp only [BuiltAs, lastBuild, dropMaterialization, Bindings.findErase, if_pos here]
  · simp only [BuiltAs, lastBuild, dropMaterialization, Bindings.findErase, if_neg here]
    exact tracks.snapshots other

theorem train (tracks : TracksBuilt h m) (known : ∀ id, m.records id = records h id) {d : TrainingSetDef}
    {rows : List TrainingSetRow} (built : m.trainingRows d = .ok rows) {call : OfflineCall}
    (builds : ∀ id, lastTraining id ((call, true) :: h) =
      if d.id = id then some (d, h) else lastTraining id h)
    (keeps : ∀ mat, lastBuild mat ((call, true) :: h) = lastBuild mat h) :
    TracksBuilt ((call, true) :: h) (m.putTrainingSet d.id rows) := by
  refine ⟨fun mat => ?_, fun id => ?_⟩
  · rw [BuiltAs, keeps]
    exact tracks.snapshots mat
  · by_cases here : d.id = id
    · simp only [JoinedAs, builds, putTrainingSet, Bindings.findInsert, if_pos here]
      obtain ⟨labels, features, labelled, collected, same⟩ := trainingRecords known built
      exact ⟨labels, features, labelled, collected, congrArg some same⟩
    · simp only [JoinedAs, builds, putTrainingSet, Bindings.findInsert, if_neg here]
      exact tracks.trainings id

end TracksBuilt
end FeatureStore
