import FeatureStore.Proofs.Job.Materialize
import FeatureStore.Proofs.Record.Latest

/-!
A feature between the two stores of a host, through any run of writes, snapshots, deletions and jobs.
The invariant that carries the main result: the offline table holds what was written in order, and the
online table has no entity that was never written. As entities are never taken back, a job that
succeeds overwrites all that an earlier one has left.
-/
namespace FeatureStore

structure Feature where
  resource : ResourceId
  offline : Nat
  online : Nat

namespace Feature

inductive Action (f : Feature) where
  | write (r : ResourceRecord)
  | create
  | update
  | delete
  | dropTable
  | materialize (job : Materialize.Plan) (about : job.config.resource = f.resource)

def attempt {α : Type} (t : Task (StateM Host) α) : StateM Host Bool := do return (← t.run).isOk

def perform (f : Feature) : Action f → StateM Host Bool
  | .write r => attempt do (← (Host.offline f.offline).getResource f.resource).write r
  | .create => attempt ((Host.offline f.offline).createMaterialization f.resource)
  | .update => attempt ((Host.offline f.offline).updateMaterialization f.resource)
  | .delete => attempt ((Host.offline f.offline).deleteMaterialization (.ofResource f.resource))
  | .dropTable =>
    attempt ((Host.online f.online).deleteTable f.resource.name f.resource.variant)
  | .materialize job _ => do return (← (job.runner f.offline f.online).wait).isOk

structure Run (f : Feature) where
  host : Host
  log : List (Action f × Bool)

def served (f : Feature) (entity : String) : Task (StateM Host) FeatureValue := do
  (← (Host.online f.online).getTable f.resource.name f.resource.variant).get entity

def key (f : Feature) : String := onlineTableKey "" f.resource.name f.resource.variant

namespace Run
variable {f : Feature}

def step (x : Run f) (a : Action f) : Run f :=
  let performed := (f.perform a).run x.host
  ⟨performed.2, x.log ++ [(a, performed.1)]⟩

def steps (x : Run f) (actions : List (Action f)) : Run f := actions.foldl step x

def accepted : Action f × Bool → Option ResourceRecord
  | (.write r, true) => some r
  | _ => none

def written (x : Run f) : List ResourceRecord := x.log.filterMap accepted

def Within (records : List ResourceRecord) (entries : Bindings String FeatureValue) : Prop :=
  ∀ e v, entries.find? e = some v → ∃ r ∈ records, r.entity = e

theorem Within.later {records : List ResourceRecord} {entries : Bindings String FeatureValue}
    (within : Within records entries) (r : ResourceRecord) : Within (records ++ [r]) entries := by
  intro e v found
  obtain ⟨s, mem, same⟩ := within e v found
  exact ⟨s, List.mem_append_left _ mem, same⟩

theorem copiedNewest {job : Materialize.Plan} {records : List ResourceRecord}
    {c : String × FeatureValue} :
    c ∈ job.copied (ResourceRecord.latestPerEntity records) ↔
      ∃ r, ResourceRecord.Newest records r ∧ Copy.entry r = c := by
  simp only [Materialize.Plan.copiedMem, List.mem_map, (ResourceRecord.keptLatest records).newest]

theorem Within.copied {records : List ResourceRecord} {entries : Bindings String FeatureValue}
    (within : Within records entries) (job : Materialize.Plan) :
    Within records (entries.insertAll (job.copied (ResourceRecord.latestPerEntity records))) := by
  intro e v found
  by_cases fresh : ∃ c ∈ job.copied (ResourceRecord.latestPerEntity records), c.1 = e
  · obtain ⟨c, mem, rfl⟩ := fresh
    obtain ⟨r, newest, rfl⟩ := copiedNewest.mp mem
    exact ⟨r, ResourceRecord.newestMember newest, rfl⟩
  · rw [Bindings.insertAllAbsent fun c mem same => fresh ⟨c, mem, same⟩] at found
    exact within e v found

structure Tracked (x : Run f) : Prop where
  holds : x.host.Holds f.offline f.online
  recorded : (x.host.memoryAt f.offline).resources.find? f.resource = some (.owned x.written)
  known : ∀ place t, (x.host.localAt f.online).tableNamed? f.key = some (place, t) →
    ∃ entries, t = .values entries ∧ Within x.written entries

theorem writtenStep (x : Run f) (a : Action f) :
    (x.step a).written =
      x.written ++ (accepted (a, ((f.perform a).run x.host).1)).toList := by
  simp only [written, step, List.filterMap_append, List.filterMap_cons, List.filterMap_nil]
  split <;> simp [*]

theorem writtenGrows (x : Run f) (actions : List (Action f)) :
    x.written.length ≤ (x.steps actions).written.length := by
  induction actions generalizing x with
  | nil => exact Nat.le_refl _
  | cons a rest ih =>
    have later := ih (x.step a)
    rw [writtenStep, List.length_append] at later
    exact Nat.le_trans (Nat.le_add_right _ _) later

theorem trackedQuiet {x : Run f} (tracked : x.Tracked) {a : Action f} {h : Host}
    (silent : accepted (a, ((f.perform a).run x.host).1) = none)
    (moved : ((f.perform a).run x.host).2 = h) (holds : h.Holds f.offline f.online)
    (same : (h.memoryAt f.offline).resources = (x.host.memoryAt f.offline).resources)
    (known : ∀ place t, (h.localAt f.online).tableNamed? f.key = some (place, t) →
      ∃ entries, t = .values entries ∧ Within x.written entries) :
    (x.step a).Tracked := by
  have unchanged : (x.step a).written = x.written := by
    rw [writtenStep, silent]
    simp
  have arrived : (x.step a).host = h := moved
  refine ⟨by rw [arrived]; exact holds, ?_, ?_⟩
  · rw [arrived, unchanged, same]
    exact tracked.recorded
  · rw [arrived, unchanged]
    exact known

theorem recordsTracked {x : Run f} (tracked : x.Tracked) :
    (x.host.memoryAt f.offline).records f.resource = .ok x.written := by
  simp [Memory.records, tracked.recorded]

theorem builtLatest {x : Run f} (tracked : x.Tracked) {c : MaterializeConfig}
    (about : c.resource = f.resource) {rows}
    (built : Materialize.build c (x.host.memoryAt f.offline) = .ok rows) :
    rows = ResourceRecord.latestPerEntity x.written := by
  simp only [Materialize.build, about] at built
  split at built <;> try contradiction
  simp only [Memory.snapshot, recordsTracked tracked, bind, Except.bind, Except.map] at built
  split at built <;> try contradiction
  cases built
  rfl

theorem attemptOn {α : Type} (t : Task (StateM Host) α) (h : Host) :
    (attempt t).run h = ((t.on h).1.isOk, (t.on h).2) := rfl

theorem writeOn {x : Run f} (tracked : x.Tracked) (r : ResourceRecord) :
    (f.perform (.write r)).run x.host =
      match r.check with
      | .error _ => (false, x.host)
      | .ok _ => (true, x.host.putMemory f.offline
          ((x.host.memoryAt f.offline).putResource f.resource (.owned (x.written ++ [r])))) := by
  have found : ((Host.offline f.offline).getResource f.resource).on x.host =
      (.ok ((Memory.resourceTable f.resource (.owned x.written)).lift (Host.onMemory f.offline)),
        x.host) := by
    simp [Host.offline, OfflineStore.lift, Memory.store, Task.onMap, Host.onMemoryAt,
      Memory.getResourceOn, tracked.recorded, Except.map]
  simp only [perform, attemptOn, Task.onBind, found, ResourceTable.lift, Memory.resourceTable,
    Host.onMemoryAt, Memory.writeOwnedOn, Memory.addRecordOwned tracked.recorded]
  rcases r.check with e | _
  · simp [Memory.failed, Except.isOk, Except.toBool]
  · rfl

theorem trackedMemory {α β : Type} {x : Run f} (tracked : x.Tracked) {a : Action f}
    (silent : ∀ ok, accepted (a, ok) = none) {t : Task (StateM Memory) α} {g : α → β}
    (performed : f.perform a = attempt (g <$> Task.lift (Host.onMemory f.offline) t))
    (same : ∀ m, (t.on m).2.resources = m.resources) : (x.step a).Tracked := by
  refine trackedQuiet tracked (silent _)
    (h := x.host.putMemory f.offline (t.on (x.host.memoryAt f.offline)).2) ?_
    (tracked.holds.putMemory _ _) ?_ tracked.known
  · rw [performed, attemptOn, Task.onMap, Host.onMemoryAt]
  · rw [Host.memoryAtPut tracked.holds.offline]
    exact same _

theorem readyKnown {x : Run f} (tracked : x.Tracked) {c : MaterializeConfig}
    (about : c.resource = f.resource) {place s}
    (ready : Materialize.ready c (x.host.localAt f.online) = .ok (place, s)) :
    ∃ entries, s.tableNamed? f.key = some (place, .values entries) ∧ Within x.written entries := by
  simp only [Materialize.ready, about] at ready
  split at ready
  · rename_i found
    cases ready
    obtain ⟨entries, rfl, among⟩ := tracked.known _ _ found
    exact ⟨entries, found, among⟩
  · split at ready <;> try contradiction
    cases ready
    refine ⟨.empty, LocalStore.tableNamedIff.mpr ⟨?_, ?_⟩, by simp [Within]⟩
    · simp [Bindings.findInsert, key]
    · simp

theorem jobOn {x : Run f} (tracked : x.Tracked) (small : x.written.length < 2 ^ 63)
    {job : Materialize.Plan} (about : job.config.resource = f.resource) :
    (∃ e m, (job.runner f.offline f.online).body.on x.host =
        (.error (.error e), x.host.putMemory f.offline m) ∧
      m.resources = (x.host.memoryAt f.offline).resources) ∨
    ∃ (m : Memory) (place : Nat) (s : LocalStore) (entries : Bindings String FeatureValue),
      (job.runner f.offline f.online).body.on x.host =
        (.ok (), (x.host.putMemory f.offline m).putLocal f.online
          (s.writeAll place (job.copied (ResourceRecord.latestPerEntity x.written)))) ∧
      m.resources = (x.host.memoryAt f.offline).resources ∧
      s.tableNamed? f.key = some (place, .values entries) ∧ Within x.written entries := by
  have sameKey : job.key = f.key := by simp [Materialize.Plan.key, key, about]
  have computed := Materialize.bodyOn (j := job) (p := f.offline) tracked.holds.online
    (fun rows built => by
      rw [builtLatest tracked about built]
      exact Nat.lt_of_le_of_lt (ResourceRecord.latestLength _) small)
    (fun place s ready => by
      obtain ⟨entries, named, -⟩ := readyKnown tracked about ready
      exact ⟨entries, by rw [sameKey]; exact named⟩)
  rcases built : Materialize.build job.config (x.host.memoryAt f.offline) with e | rows
  · rw [built] at computed
    exact .inl ⟨e, _, by rw [Host.putMemorySame]; exact computed, rfl⟩
  · rw [builtLatest tracked about built] at built
    rcases ready : Materialize.ready job.config (x.host.localAt f.online) with e | ⟨place, s⟩
    · rw [built, ready] at computed
      exact .inl ⟨e, _, computed, rfl⟩
    · rw [built, ready] at computed
      obtain ⟨entries, named, among⟩ := readyKnown tracked about ready
      exact .inr ⟨_, place, s, entries, computed, rfl, named, among⟩

theorem writeTracked {x : Run f} (tracked : x.Tracked) (r : ResourceRecord) :
    (x.step (.write r)).Tracked := by
  have performed := writeOn tracked r
  rcases checked : r.check with e | _
  · rw [checked] at performed
    exact trackedQuiet tracked (by rw [performed]; rfl) (by rw [performed]) tracked.holds rfl
      tracked.known
  · rw [checked] at performed
    have longer : (x.step (.write r)).written = x.written ++ [r] := by
      rw [writtenStep, performed]
      rfl
    have moved : (x.step (.write r)).host = x.host.putMemory f.offline
        ((x.host.memoryAt f.offline).putResource f.resource (.owned (x.written ++ [r]))) := by
      simp [step, performed]
    refine ⟨by rw [moved]; exact tracked.holds.putMemory _ _, ?_, ?_⟩
    · rw [moved, longer, Host.memoryAtPut tracked.holds.offline]
      simp [Memory.putResource, Bindings.findInsert]
    · rw [moved, longer]
      intro place t named
      obtain ⟨entries, plain, within⟩ := tracked.known place t named
      exact ⟨entries, plain, within.later r⟩

theorem dropTableTracked {x : Run f} (tracked : x.Tracked) : (x.step .dropTable).Tracked := by
  refine trackedQuiet tracked rfl rfl (tracked.holds.putLocal _ _) rfl ?_
  intro place t named
  replace named : ((x.host.putLocal f.online ((LocalStore.deleteTable f.resource.name
    f.resource.variant).on (x.host.localAt f.online)).2).localAt f.online).tableNamed? f.key =
      some (place, t) := named
  rw [Host.localAtPut tracked.holds.online, LocalStore.deleteTableOn] at named
  split at named
  · have gone := (LocalStore.tableNamedIff.mp named).1
    simp [Bindings.findErase, key] at gone
  · exact tracked.known place t named

theorem materializeTracked {x : Run f} (tracked : x.Tracked) (small : x.written.length < 2 ^ 63)
    (job : Materialize.Plan) (about : job.config.resource = f.resource) :
    (x.step (.materialize job about)).Tracked := by
  have ended : ((f.perform (.materialize job about)).run x.host).2 =
      ((job.runner f.offline f.online).body.on x.host).2 := by
    have waited := Runner.waitOn (job.runner f.offline f.online) x.host
    exact congrArg Prod.snd waited
  rcases jobOn tracked small about with ⟨e, m, computed, same⟩ |
    ⟨m, place, s, entries, computed, same, named, within⟩
  · -- A job that fails may still have built its snapshot.
    rw [computed] at ended
    refine trackedQuiet tracked rfl ended (tracked.holds.putMemory _ _) ?_ tracked.known
    rw [Host.memoryAtPut tracked.holds.offline]
    exact same
  · rw [computed] at ended
    refine trackedQuiet tracked rfl ended ((tracked.holds.putMemory _ _).putLocal _ _) ?_ ?_
    · rw [Host.memoryAtPutLocal, Host.memoryAtPut tracked.holds.offline]
      exact same
    · intro place' t found
      rw [Host.localAtPut (by simpa [Host.putMemory] using tracked.holds.online),
        LocalStore.writeAllNamed _ named] at found
      cases found
      exact ⟨_, rfl, within.copied job⟩

theorem stepTracked {x : Run f} (tracked : x.Tracked) (small : x.written.length < 2 ^ 63)
    (a : Action f) : (x.step a).Tracked := by
  cases a with
  | write r => exact writeTracked tracked r
  | create =>
    refine trackedMemory tracked (fun _ => rfl) (t := Memory.createMaterialization f.resource) rfl ?_
    intro m
    rw [Memory.createMaterializationOn]
    split
    · rfl
    · split <;> rfl
  | update =>
    refine trackedMemory tracked (fun _ => rfl) (t := Memory.updateMaterialization f.resource) rfl ?_
    intro m
    rw [Memory.updateMaterializationOn]
    split <;> rfl
  | delete =>
    refine trackedMemory tracked (fun _ => rfl) (g := id)
      (t := Memory.deleteMaterialization (.ofResource f.resource)) (by rw [id_map]; rfl) ?_
    intro m
    rw [Memory.deleteMaterializationOn]
    split <;> rfl
  | dropTable => exact dropTableTracked tracked
  | materialize job about => exact materializeTracked tracked small job about

theorem stepsTracked {x : Run f} (tracked : x.Tracked) (actions : List (Action f))
    (small : (x.steps actions).written.length < 2 ^ 63) : (x.steps actions).Tracked := by
  induction actions generalizing x with
  | nil => exact tracked
  | cons a rest ih =>
    have now := Nat.lt_of_le_of_lt (writtenGrows x (a :: rest)) small
    exact ih (stepTracked tracked now a) small

theorem startTracked {schema : TableSchema} {t : ResourceTable (StateM Host)} {h₀ h : Host}
    (holds : h₀.Holds f.offline f.online)
    (made : ((Host.offline f.offline).createResource f.resource schema).on h₀ = (.ok t, h))
    (bare : ∀ place t, (h.localAt f.online).tableNamed? f.key = some (place, t) → t = .values .empty) :
    (Run.mk (f := f) h []).Tracked := by
  have created : ((Host.offline f.offline).createResource f.resource schema).on h₀ =
      (((Memory.createResource f.resource schema).on (h₀.memoryAt f.offline)).1.map
          (ResourceTable.lift (Host.onMemory f.offline)),
        h₀.putMemory f.offline ((Memory.createResource f.resource schema).on (h₀.memoryAt f.offline)).2) := by
    simp only [Host.offline, OfflineStore.lift, Memory.store, Task.onMap, Host.onMemoryAt]
  rw [created, Memory.createResourceOn] at made
  split at made
  · cases made
  · cases made
  · split at made
    · cases made
    · cases made
      refine ⟨holds.putMemory _ _, ?_, ?_⟩
      · rw [Host.memoryAtPut holds.offline]
        simp [Memory.putResource, Bindings.findInsert, written]
      · intro place t named
        exact ⟨.empty, bare place t named, by simp [Within]⟩

theorem servedOn {h : Host} {place : Nat} {entries : Bindings String FeatureValue}
    (named : (h.localAt f.online).tableNamed? f.key = some (place, .values entries)) (e : String) :
    (f.served e).on h =
      match entries.find? e with
      | some v => (.ok v, h)
      | none => (.error (.error (.notFound "entity" e)), h) := by
  have at' : (h.localAt f.online).valueAt? place e = entries.find? e := by
    simp [LocalStore.valueAt?, (LocalStore.tableNamedIff.mp named).2]
  rw [key] at named
  simp only [served, Host.online, OnlineStore.lift, LocalStore.store, Task.onBind, Task.onMap,
    Host.onLocalAt, LocalStore.getTableOn, named, Except.map, Host.putLocalSame, OnlineTable.lift,
    LocalStore.handle, LocalStore.getOn, at']
  cases entries.find? e <;> simp

theorem copiedExactly {records : List ResourceRecord} {entries : Bindings String FeatureValue}
    (within : Within records entries) (job : Materialize.Plan) :
    (∀ r, ResourceRecord.Newest records r →
      (entries.insertAll (job.copied (ResourceRecord.latestPerEntity records))).find? r.entity =
        some r.value) ∧
    ∀ e, (∀ w ∈ records, w.entity ≠ e) →
      (entries.insertAll (job.copied (ResourceRecord.latestPerEntity records))).find? e = none := by
  constructor
  · intro r newest
    refine Bindings.insertAllAgreed ?_ (.inl ⟨_, copiedNewest.mpr ⟨r, newest, rfl⟩, rfl⟩)
    intro c mem same
    obtain ⟨s, newestToo, rfl⟩ := copiedNewest.mp mem
    rw [ResourceRecord.newestUnique newestToo newest same]
    rfl
  · intro e absent
    cases found : (entries.insertAll (job.copied (ResourceRecord.latestPerEntity records))).find? e with
    | none => rfl
    | some v =>
      obtain ⟨r, mem, same⟩ := within.copied job e v found
      exact absurd same (absent r mem)

/-- A job that succeeds leaves the newest value of every entity that was written, and nothing of any
other entity. A list in memory is shorter than `2 ^ 63`. -/
theorem servesExactlyNewest {schema : TableSchema} {t : ResourceTable (StateM Host)} {h₀ h after : Host}
    (holds : h₀.Holds f.offline f.online)
    (made : ((Host.offline f.offline).createResource f.resource schema).on h₀ = (.ok t, h))
    (bare : ∀ place t, (h.localAt f.online).tableNamed? f.key = some (place, t) → t = .values .empty)
    (actions : List (Action f)) (job : Materialize.Plan) (about : job.config.resource = f.resource)
    (small : ((Run.mk h []).steps actions).written.length < 2 ^ 63)
    (succeeded : (job.runner f.offline f.online).wait.run ((Run.mk h []).steps actions).host =
      (.ok (), after)) :
    (∀ w ∈ ((Run.mk h []).steps actions).written,
      ∃ r, ResourceRecord.Newest ((Run.mk h []).steps actions).written r ∧ r.entity = w.entity ∧
        (f.served w.entity).on after = (.ok r.value, after)) ∧
    ∀ e, (∀ w ∈ ((Run.mk h []).steps actions).written, w.entity ≠ e) →
      (f.served e).on after = (.error (.error (.notFound "entity" e)), after) := by
  have tracked := stepsTracked (startTracked holds made bare) actions small
  generalize (Run.mk h []).steps actions = x at *
  rw [Runner.waitOn] at succeeded
  rcases jobOn tracked small about with ⟨e, m, computed, -⟩ |
    ⟨m, place, s, entries, computed, -, named, within⟩
  · rw [computed] at succeeded
    cases succeeded
  · rw [computed] at succeeded
    cases succeeded
    have table := LocalStore.writeAllNamed
      (job.copied (ResourceRecord.latestPerEntity x.written)) named
    rw [← Host.localAtPut (h := x.host.putMemory f.offline m)
      (by simpa [Host.putMemory] using tracked.holds.online) (s.writeAll _ _)] at table
    obtain ⟨values, others⟩ := copiedExactly within job
    constructor
    · intro w mem
      obtain ⟨r, newest, same⟩ := ResourceRecord.newestExists mem
      exact ⟨r, newest, same, by rw [servedOn table, ← same, values r newest]⟩
    · intro e absent
      rw [servedOn table, others e absent]

def clicks : Feature := ⟨⟨"clicks", "v1", .feature⟩, 0, 0⟩

def clicksSchema : TableSchema := ⟨[⟨"entity", .string⟩, ⟨"value", .int⟩, ⟨"ts", .timestamp⟩]⟩

def clicksHost : Host := { Host.start none none with memories := [.empty], locals := [.empty] }

def backwards (isUpdate : Bool) : Materialize.Plan where
  config := ⟨.memoryOffline, .empty, .localOnline, .empty, clicks.resource, .int, isUpdate, 1⟩
  positive := by cases isUpdate <;> decide
  arrange := List.reverse
  arranged count := List.reverse_perm _

def second (n : Nat) : Timestamp := (Timestamp.ofParts? n 0).getD .epoch

def clicksActions : List (Action clicks) :=
  [.write ⟨"u1", .int 1, second 10⟩, .write ⟨"", .int 9, second 10⟩, .materialize (backwards false) rfl,
    .write ⟨"u1", .int 2, second 5⟩, .write ⟨"u2", .int 3, second 10⟩, .create, .delete]

def clicksMade : Host :=
  (((Host.offline 0).createResource clicks.resource clicksSchema).on clicksHost).2

theorem servesExactlyNewestClicks :
    ((Run.mk clicksMade []).steps clicksActions).written.length = 3 ∧
    ∃ after, ((backwards true).runner 0 0).wait.run ((Run.mk clicksMade []).steps clicksActions).host =
      (.ok (), after) ∧
    (∀ w ∈ ((Run.mk clicksMade []).steps clicksActions).written,
      ∃ r, ResourceRecord.Newest ((Run.mk clicksMade []).steps clicksActions).written r ∧
        r.entity = w.entity ∧ (clicks.served w.entity).on after = (.ok r.value, after)) ∧
    ∀ e, (∀ w ∈ ((Run.mk clicksMade []).steps clicksActions).written, w.entity ≠ e) →
      (clicks.served e).on after = (.error (.error (.notFound "entity" e)), after) := by
  have holds : clicksHost.Holds clicks.offline clicks.online := ⟨by decide, by decide⟩
  obtain ⟨t, made⟩ := Task.answered (r := ((Host.offline 0).createResource clicks.resource
    clicksSchema).on clicksHost) (by decide +kernel)
  have bare : ∀ place t, (clicksMade.localAt clicks.online).tableNamed? clicks.key = some (place, t) →
      t = .values .empty := by
    intro place t named
    rw [LocalStore.tableNamedNone (by decide +kernel)] at named
    cases named
  have three : ((Run.mk clicksMade []).steps clicksActions).written.length = 3 := by decide +kernel
  obtain ⟨_, succeeded⟩ := Task.answered (r := ((backwards true).runner 0 0).wait.run
    ((Run.mk clicksMade []).steps clicksActions).host) (by decide +kernel)
  exact ⟨three, _, succeeded, servesExactlyNewest holds made bare clicksActions (backwards true) rfl
    (three ▸ by decide) succeeded⟩

end Run
end Feature
end FeatureStore
