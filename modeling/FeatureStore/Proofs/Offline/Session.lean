import FeatureStore.Proofs.Offline.Changes
import FeatureStore.Proofs.Offline.Tracking

/-!
A client of the store in memory through any run of calls. The invariant that carries the main result
ties the store and the handles to the history of calls; each change preserves it, and so does a call
that fails.
-/
namespace FeatureStore
open Memory History OfflineCall

namespace OfflineSession

/- What handles lead to stays: no resource is taken back, and no table changes its kind, its name or
its columns. -/
structure Extends (m after : Memory) : Prop where
  resources {id : ResourceId} {source : RecordSource} : m.resources.find? id = some source →
    ∃ later, after.resources.find? id = some later ∧ resourceTable id later = resourceTable id source
  primaries {id : ResourceId} {place : Nat} : m.primaries.find? id = some place →
    after.primaries.find? id = some place
  tables {place : Nat} {t : MemoryTable} : m.tables[place]? = some t →
    ∃ later, after.tables[place]? = some later ∧ primaryTable place later = primaryTable place t

namespace Extends
variable {m after : Memory}

theorem same (resources : after.resources = m.resources) (primaries : after.primaries = m.primaries)
    (tables : after.tables = m.tables) : Extends m after := by
  refine ⟨fun {id source} found => ⟨source, ?_, rfl⟩, fun found => ?_, fun {place t} found => ⟨t, ?_, rfl⟩⟩
  · rw [resources, found]
  · rw [primaries, found]
  · rw [tables, found]

theorem putResource {id : ResourceId} (source : RecordSource)
    (kept : ∀ old, m.resources.find? id = some old → resourceTable id source = resourceTable id old) :
    Extends m (m.putResource id source) := by
  refine ⟨fun {other old} found => ?_, fun found => found, fun found => ⟨_, found, rfl⟩⟩
  by_cases here : id = other
  · subst here
    exact ⟨source, by rw [Memory.putResource, Bindings.findInsert, if_pos rfl], kept old found⟩
  · exact ⟨old, by rw [Memory.putResource, Bindings.findInsert, if_neg here, found], rfl⟩

theorem putPrimary {id : ResourceId} (new : m.primaries.contains id = false) (place : Nat) :
    Extends m (m.putPrimary id place) := by
  refine ⟨fun found => ⟨_, found, rfl⟩, fun {other old} found => ?_, fun found => ⟨_, found, rfl⟩⟩
  have apart : id ≠ other := by
    rintro rfl
    simp [Bindings.contains, found] at new
  rw [Memory.putPrimary, Bindings.findInsert, if_neg apart, found]

theorem addTable {id : ResourceId} (new : m.primaries.contains id = false) (t : MemoryTable) :
    Extends m (m.addTable id t) := by
  refine ⟨fun found => ⟨_, found, rfl⟩, (putPrimary new m.tables.length).primaries,
    fun {place old} found => ⟨old, ?_, rfl⟩⟩
  have inside := (List.getElem?_eq_some_iff.mp found).1
  rw [Memory.addTable, List.getElem?_append_left inside, found]

theorem addRow (place : Nat) (row : Row) : Extends m (m.addRow place row) := by
  refine ⟨fun found => ⟨_, found, rfl⟩, fun found => found, fun {other t} found => ?_⟩
  by_cases here : place = other
  · exact ⟨{ t with rows := t.rows ++ [row] }, by simp [Memory.addRow, here, found], rfl⟩
  · exact ⟨t, by simp [Memory.addRow, here, found], rfl⟩

end Extends

theorem Shows.later {h : History} {m after : Memory} {number : Nat} {t : OfflineHandle (StateM Memory)}
    (shows : Shows h m number t) (extends' : Extends m after) (e : OfflineCall × Bool)
    (old : number < h.length) : Shows (e :: h) after number t := by
  cases t with
  | resource t =>
    obtain ⟨id, source, given, found, rfl⟩ := shows
    obtain ⟨later, now, same⟩ := extends'.resources found
    exact ⟨id, later, by rw [giverOld h e old, given], now, same.symm⟩
  | primary t =>
    obtain ⟨id, place, table, given, found, there, rfl⟩ := shows
    obtain ⟨later, now, same⟩ := extends'.tables there
    exact ⟨id, place, later, by rw [giverOld h e old, given], extends'.primaries found, now, same.symm⟩
  | snapshot t => exact shows

structure Tracked (x : OfflineSession) : Prop where
  tables : TracksTables x.history x.memory
  resources : TracksResources x.history x.memory
  built : TracksBuilt x.history x.memory
  count : x.held.length = x.history.length
  handles {number : Nat} {t : OfflineHandle (StateM Memory)} :
    x.held[number]?.join = some t → Shows x.history x.memory number t

theorem trackedStart : start.Tracked :=
  ⟨.start, .start, .start, rfl, fun found => by simp [start] at found⟩

namespace Tracked
variable {x : OfflineSession}

theorem records (tracked : x.Tracked) (id : ResourceId) :
    x.memory.records id = x.history.records id :=
  recordsTracked tracked.tables tracked.resources id

theorem next (tracked : x.Tracked) {call : OfflineCall} {ok : Bool}
    {handle : Option (OfflineHandle (StateM Memory))} {after : Memory}
    (tables : TracksTables ((call, ok) :: x.history) after)
    (resources : TracksResources ((call, ok) :: x.history) after)
    (built : TracksBuilt ((call, ok) :: x.history) after) (extends' : Extends x.memory after)
    (shows : ∀ t, handle = some t → Shows ((call, ok) :: x.history) after x.history.length t) :
    Tracked ⟨after, x.held ++ [handle], (call, ok) :: x.history⟩ := by
  refine ⟨tables, resources, built, by simp [tracked.count], fun {number t} found => ?_⟩
  rcases Nat.lt_trichotomy number x.history.length with old | here | beyond
  · have before : x.held[number]?.join = some t := by
      simpa [List.getElem?_append_left (tracked.count ▸ old)] using found
    exact (tracked.handles before).later extends' (call, ok) old
  · subst here
    refine shows t ?_
    simpa [← tracked.count] using found
  · have none : (x.held ++ [handle])[number]? = none := by
      rw [List.getElem?_eq_none_iff, List.length_append, tracked.count]
      exact beyond
    simp [none] at found

theorem quiet (tracked : x.Tracked) {call : OfflineCall} {ok : Bool}
    {handle : Option (OfflineHandle (StateM Memory))}
    (tables : SameTables (call, ok) x.history) (resources : SameResources (call, ok) x.history)
    (built : SameBuilt (call, ok) x.history)
    (shows : ∀ t, handle = some t → Shows ((call, ok) :: x.history) x.memory x.history.length t) :
    Tracked ⟨x.memory, x.held ++ [handle], (call, ok) :: x.history⟩ :=
  tracked.next (tracked.tables.same tables rfl rfl) (tracked.resources.same resources rfl)
    (tracked.built.same built rfl rfl) (.same rfl rfl rfl) shows

theorem refused (tracked : x.Tracked) (call : OfflineCall) :
    Tracked ⟨x.memory, x.held ++ [none], (call, false) :: x.history⟩ :=
  tracked.quiet (failedTables _ _) (failedResources _ _) (failedBuilt _ _) (by simp)

theorem looked (tracked : x.Tracked) {call : OfflineCall} (looks : call.Looks) :
    Tracked ⟨x.memory, x.held ++ [none], (call, true) :: x.history⟩ := by
  refine tracked.quiet ?_ ?_ ?_ (by simp)
  · cases call <;> first | exact ⟨rfl, fun _ => rfl, fun _ => rfl⟩ | exact looks.elim
  · cases call <;> first | exact ⟨fun _ => rfl, fun _ => rfl⟩ | exact looks.elim
  · cases call <;> first | exact ⟨fun _ => rfl, fun _ => rfl⟩ | exact looks.elim

theorem putResource (tracked : x.Tracked) {call : OfflineCall}
    {handle : Option (OfflineHandle (StateM Memory))} {id : ResourceId} {source : RecordSource}
    (tables : SameTables (call, true) x.history) (built : SameBuilt (call, true) x.history)
    (resources : TracksResources ((call, true) :: x.history) (x.memory.putResource id source))
    (kept : ∀ old, x.memory.resources.find? id = some old → resourceTable id source = resourceTable id old)
    (shows : ∀ t, handle = some t →
      Shows ((call, true) :: x.history) (x.memory.putResource id source) x.history.length t) :
    Tracked ⟨x.memory.putResource id source, x.held ++ [handle], (call, true) :: x.history⟩ :=
  tracked.next (tracked.tables.same tables rfl rfl) resources (tracked.built.same built rfl rfl)
    (.putResource _ kept) shows

theorem putBuilt (tracked : x.Tracked) {call : OfflineCall}
    {handle : Option (OfflineHandle (StateM Memory))} {after : Memory}
    (tables : SameTables (call, true) x.history) (resources : SameResources (call, true) x.history)
    (built : TracksBuilt ((call, true) :: x.history) after)
    (kept : after.resources = x.memory.resources ∧ after.primaries = x.memory.primaries ∧
      after.tables = x.memory.tables)
    (shows : ∀ t, handle = some t → Shows ((call, true) :: x.history) after x.history.length t) :
    Tracked ⟨after, x.held ++ [handle], (call, true) :: x.history⟩ :=
  tracked.next (tracked.tables.same tables kept.2.2 kept.2.1) (tracked.resources.same resources kept.1)
    built (.same kept.1 kept.2.1 kept.2.2) shows

theorem newResource {id : ResourceId} (new : x.memory.resources.contains id = false)
    (source old : RecordSource) (found : x.memory.resources.find? id = some old) :
    resourceTable id source = resourceTable id old := by
  simp [Bindings.contains, found] at new

theorem change (tracked : x.Tracked) {call : OfflineCall}
    {handle : Option (OfflineHandle (StateM Memory))} {after : Memory}
    (change : x.Change call handle after) :
    Tracked ⟨after, x.held ++ [handle], (call, true) :: x.history⟩ := by
  cases change with
  | @createResource id schema new =>
    refine tracked.putResource ⟨rfl, fun _ => rfl, fun _ => rfl⟩ ⟨fun _ => rfl, fun _ => rfl⟩
      (tracked.resources.createResource schema new) (newResource new _) ?_
    rintro t ⟨rfl⟩
    exact ⟨id, _, giverNew _ _, by rw [Memory.putResource, Bindings.findInsert, if_pos rfl], rfl⟩
  | @getResource id source found =>
    refine tracked.quiet ⟨rfl, fun _ => rfl, fun _ => rfl⟩ ⟨fun _ => rfl, fun _ => rfl⟩
      ⟨fun _ => rfl, fun _ => rfl⟩ ?_
    rintro t ⟨rfl⟩
    exact ⟨id, source, giverNew _ _, found, rfl⟩
  | @registerResource id schema place t new found =>
    have led : History.named x.history schema.sourceTable = some place := by
      rw [← tracked.tables.names, found]
      rfl
    refine tracked.putResource ⟨rfl, fun _ => rfl, fun _ => rfl⟩ ⟨fun _ => rfl, fun _ => rfl⟩
      (tracked.resources.registerResource led) (newResource new _) ?_
    rintro t ⟨rfl⟩
    exact ⟨id, _, giverNew _ _, by rw [Memory.putResource, Bindings.findInsert, if_pos rfl], rfl⟩
  -- The records of the feature change, but its handles are the same for any of them.
  | @write handle r id records given owned entity =>
    have resources := tracked.resources.write given owned entity
    rw [addRecordOwned owned] at resources ⊢
    refine tracked.putResource ⟨rfl, fun _ => rfl, fun _ => rfl⟩ ⟨fun _ => rfl, fun _ => rfl⟩
      resources (fun old held => ?_) (by simp)
    rw [owned] at held
    cases held
    rfl
  | @createPrimary id schema new =>
    refine tracked.next (tracked.tables.createPrimary schema new)
      (tracked.resources.same ⟨fun _ => rfl, fun _ => rfl⟩ rfl)
      (tracked.built.same ⟨fun _ => rfl, fun _ => rfl⟩ rfl rfl) (.addTable new _) ?_
    rintro t ⟨rfl⟩
    refine ⟨id, x.memory.tables.length, _, giverNew _ _, ?_, ?_, rfl⟩
    · rw [addTable, Bindings.findInsert, if_pos rfl]
    · simp [addTable]
  | @getPrimary id place table shown there =>
    refine tracked.quiet ⟨rfl, fun _ => rfl, fun _ => rfl⟩ ⟨fun _ => rfl, fun _ => rfl⟩
      ⟨fun _ => rfl, fun _ => rfl⟩ ?_
    rintro t ⟨rfl⟩
    exact ⟨id, place, table, giverNew _ _, shown, there, rfl⟩
  | @registerPrimary id source place table new found =>
    refine tracked.next (tracked.tables.registerPrimary new found)
      (tracked.resources.same ⟨fun _ => rfl, fun _ => rfl⟩ rfl)
      (tracked.built.same ⟨fun _ => rfl, fun _ => rfl⟩ rfl rfl) (.putPrimary new place) ?_
    rintro t ⟨rfl⟩
    refine ⟨id, place, table, giverNew _ _, ?_, (primaryNamedFound found).1, rfl⟩
    rw [putPrimary, Bindings.findInsert, if_pos rfl]
  | @writeRow handle row id place table given shown there =>
    have led : place? id x.history = some place := by rw [← tracked.tables.primaries, shown]
    have inside := (List.getElem?_eq_some_iff.mp there).1
    exact tracked.next (tracked.tables.writeRow given led inside row)
      (tracked.resources.same ⟨fun _ => rfl, fun _ => rfl⟩ rfl)
      (tracked.built.same ⟨fun _ => rfl, fun _ => rfl⟩ rfl rfl) (.addRow place row) (by simp)
  | createMaterialization made =>
    refine tracked.putBuilt ⟨rfl, fun _ => rfl, fun _ => rfl⟩ ⟨fun _ => rfl, fun _ => rfl⟩
      (tracked.built.build tracked.records made (fun _ => rfl) fun _ => rfl) ⟨rfl, rfl, rfl⟩ ?_
    rintro t ⟨rfl⟩
    exact ⟨_, _, rfl⟩
  | updateMaterialization made =>
    refine tracked.putBuilt ⟨rfl, fun _ => rfl, fun _ => rfl⟩ ⟨fun _ => rfl, fun _ => rfl⟩
      (tracked.built.build tracked.records made (fun _ => rfl) fun _ => rfl) ⟨rfl, rfl, rfl⟩ ?_
    rintro t ⟨rfl⟩
    exact ⟨_, _, rfl⟩
  | getMaterialization =>
    refine tracked.quiet ⟨rfl, fun _ => rfl, fun _ => rfl⟩ ⟨fun _ => rfl, fun _ => rfl⟩
      ⟨fun _ => rfl, fun _ => rfl⟩ ?_
    rintro t ⟨rfl⟩
    exact ⟨_, _, rfl⟩
  | @deleteMaterialization mat =>
    exact tracked.putBuilt ⟨rfl, fun _ => rfl, fun _ => rfl⟩ ⟨fun _ => rfl, fun _ => rfl⟩
      (tracked.built.drop mat) ⟨rfl, rfl, rfl⟩ (by simp)
  | createTrainingSet made =>
    exact tracked.putBuilt ⟨rfl, fun _ => rfl, fun _ => rfl⟩ ⟨fun _ => rfl, fun _ => rfl⟩
      (tracked.built.train tracked.records made (fun _ => rfl) fun _ => rfl) ⟨rfl, rfl, rfl⟩ (by simp)
  | updateTrainingSet made =>
    exact tracked.putBuilt ⟨rfl, fun _ => rfl, fun _ => rfl⟩ ⟨fun _ => rfl, fun _ => rfl⟩
      (tracked.built.train tracked.records made (fun _ => rfl) fun _ => rfl) ⟨rfl, rfl, rfl⟩ (by simp)
  | looks looks => exact tracked.looked looks

theorem accounted (tracked : x.Tracked) (call : OfflineCall) : x.Accounted call :=
  Accounted.all tracked.handles call

theorem step (tracked : x.Tracked) (call : OfflineCall) : (x.step call).Tracked := by
  rcases tracked.accounted call with performed | ⟨handle, after, performed, change⟩
  · have stepped : x.step call = ⟨x.memory, x.held ++ [none], (call, false) :: x.history⟩ := by
      simp only [OfflineSession.step, performed]
    rw [stepped]
    exact tracked.refused call
  · have stepped : x.step call = ⟨after, x.held ++ [handle], (call, true) :: x.history⟩ := by
      simp only [OfflineSession.step, performed]
    rw [stepped]
    exact tracked.change change

theorem steps (tracked : x.Tracked) (calls : List OfflineCall) :
    (calls.foldl OfflineSession.step x).Tracked := by
  induction calls generalizing x with
  | nil => exact tracked
  | cons call rest ih => exact ih (tracked.step call)

end Tracked

theorem trackedRun (calls : List OfflineCall) : (run calls).Tracked := trackedStart.steps calls

namespace Tracked
variable {x : OfflineSession}

theorem writeRefused (tracked : x.Tracked) {number : Nat} {t : ResourceTable (StateM Memory)}
    (held : x.held[number]?.join = some (.resource t)) {r : ResourceRecord} (nameless : r.entity = "") :
    ∃ e, (t.write r).on x.memory = (.error (.error e), x.memory) := by
  obtain ⟨id, source, -, -, rfl⟩ := tracked.handles held
  cases source with
  | columns schema place => exact ⟨_, readOnlyOn id schema x.memory⟩
  | owned records =>
    have wrote := writeOwnedOn id r x.memory
    simp only [ResourceRecord.check, nameless] at wrote
    exact ⟨_, wrote⟩

theorem snapshotMissing (tracked : x.Tracked) {mat : MaterializationId}
    (unbuilt : lastBuild mat x.history = none) :
    (Memory.getMaterialization mat).on x.memory =
      failed (.notFound "materialization" mat.text) x.memory := by
  have held := tracked.built.snapshots mat
  rw [BuiltAs, unbuilt] at held
  rw [getMaterializationOn, held]

theorem snapshotHeld (tracked : x.Tracked) {mat : MaterializationId} {id : ResourceId} {before : History}
    (last : lastBuild mat x.history = some (id, before)) :
    ∃ written, History.records before id = .ok written ∧
      x.memory.materializations.find? mat = some (ResourceRecord.latestPerEntity written) := by
  have held := tracked.built.snapshots mat
  rwa [BuiltAs, last] at held

theorem trainingSetMissing (tracked : x.Tracked) {id : ResourceId}
    (unbuilt : lastTraining id x.history = none) :
    (Memory.getTrainingSet id).on x.memory = failed (.notFound "training set" id.text) x.memory := by
  have held := tracked.built.trainings id
  rw [JoinedAs, unbuilt] at held
  rw [getTrainingSetOn, held]

theorem trainingSetHeld (tracked : x.Tracked) {id : ResourceId} {d : TrainingSetDef} {before : History}
    (last : lastTraining id x.history = some (d, before)) :
    ∃ labels features, History.records before d.label = .ok labels ∧
      d.features.mapM (History.records before) = .ok features ∧
      x.memory.trainingSets.find? id = some (joinTrainingSet labels features) := by
  have held := tracked.built.trainings id
  rwa [JoinedAs, last] at held

end Tracked

/-- What a store in memory answers after any run of calls, by the history of these calls. A snapshot
has the latest of the records written before it was last built, if it was built since its last deletion;
a training set has the join of those written before it was last built. Building what is there already
fails and changes nothing, and so does writing a record without an entity. -/
theorem storeFollowsHistory (calls : List OfflineCall) :
    let x := run calls
    (∀ mat,
      match lastBuild mat x.history with
      | none => (Memory.getMaterialization mat).on x.memory =
          failed (.notFound "materialization" mat.text) x.memory
      | some (id, before) => ∃ written, History.records before id = .ok written ∧
          (Memory.getMaterialization mat).on x.memory =
            (.ok (materialization mat (ResourceRecord.latestPerEntity written)), x.memory)) ∧
    (∀ id,
      match lastTraining id x.history with
      | none => (Memory.getTrainingSet id).on x.memory =
          failed (.notFound "training set" id.text) x.memory
      | some (d, before) => ∃ labels features, History.records before d.label = .ok labels ∧
          d.features.mapM (History.records before) = .ok features ∧
          (Memory.getTrainingSet id).on x.memory =
            (.ok ((joinTrainingSet labels features).map .ok), x.memory)) ∧
    (∀ id, lastBuild (.ofResource id) x.history ≠ none →
      (Memory.createMaterialization id).on x.memory =
        failed (.alreadyExists "materialization" (MaterializationId.ofResource id).text) x.memory) ∧
    (∀ d, lastTraining d.id x.history ≠ none →
      (Memory.createTrainingSet d).on x.memory =
        failed (.alreadyExists "training set" d.id.text) x.memory) ∧
    (∀ (number : Nat) (t : ResourceTable (StateM Memory)) (r : ResourceRecord),
      x.held[number]?.join = some (.resource t) → r.entity = "" →
      ∃ e, (t.write r).on x.memory = (.error (.error e), x.memory)) ∧
    (∀ id, ∀ r ∈ written id x.history, r.entity ≠ "") := by
  intro x
  have tracked : x.Tracked := trackedRun calls
  refine ⟨fun mat => ?_, fun id => ?_, fun id built => ?_, fun d built => ?_, ?_, ?_⟩
  · split
    · rename_i unbuilt
      exact tracked.snapshotMissing unbuilt
    · rename_i id before last
      obtain ⟨written, found, held⟩ := tracked.snapshotHeld last
      exact ⟨written, found, by rw [getMaterializationOn, held]⟩
  · split
    · rename_i unbuilt
      exact tracked.trainingSetMissing unbuilt
    · rename_i d before last
      obtain ⟨labels, features, labelled, collected, held⟩ := tracked.trainingSetHeld last
      exact ⟨labels, features, labelled, collected, by rw [getTrainingSetOn, held]⟩
  · obtain ⟨⟨id', before⟩, last⟩ := Option.ne_none_iff_exists'.mp built
    obtain ⟨written, -, held⟩ := tracked.snapshotHeld last
    rw [createMaterializationOn, Bindings.contains, held, Option.isSome_some, if_pos rfl]
  · obtain ⟨⟨d', before⟩, last⟩ := Option.ne_none_iff_exists'.mp built
    obtain ⟨labels, features, -, -, held⟩ := tracked.trainingSetHeld last
    rw [createTrainingSetOn, Bindings.contains, held, Option.isSome_some, if_pos rfl]
  · intro number t r held nameless
    exact tracked.writeRefused held nameless
  · exact tracked.resources.checked

def clicks : ResourceId := ⟨"clicks", "v1", .feature⟩

def clickCalls : List OfflineCall :=
  [.createResource clicks ⟨[⟨"entity", .string⟩, ⟨"value", .int⟩]⟩,
    .write 0 (.ofValue "alice" (.int 1)), .write 0 (.ofValue "" (.int 9)), .getResource clicks,
    .write 3 (.ofValue "alice" (.int 2)), .createMaterialization clicks,
    .write 0 (.ofValue "alice" (.int 3)), .createMaterialization clicks]

theorem storeFollowsHistoryClicks :
    (Memory.getMaterialization (.ofResource clicks)).on (run clickCalls).memory =
      (.ok (materialization (.ofResource clicks) [.ofValue "alice" (.int 2)]),
        (run clickCalls).memory) := by
  obtain ⟨written, found, held⟩ := (storeFollowsHistory clickCalls).1 (.ofResource clicks)
  cases found
  exact held

end OfflineSession
end FeatureStore
