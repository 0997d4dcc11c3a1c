import FeatureStore.Job.Registry
import FeatureStore.Proofs.Config
import FeatureStore.Proofs.Job.Materialize
import FeatureStore.Proofs.Offline.Session
import FeatureStore.Proofs.Record.Latest

/-!
Chunks that are copied by jobs of their own, each with its payload and its own look at the snapshot.
Other things may happen to the host between two jobs, as long as the snapshot is not replaced and the
table is left alone. A job sets its slice of the snapshot, so that it does no harm to copy a chunk
twice, and the table is complete as soon as every chunk was copied once.
-/
namespace FeatureStore

namespace Copy

def key (c : CopyConfig) : String := onlineTableKey "" c.resource.name c.resource.variant

def chunkOf (c : CopyConfig) (index : Int64) : CopyConfig := { c with chunk := ⟨c.chunk.size, index⟩ }

def launch (providers : ProviderRegistry (StateM Host)) (payload : SerializedConfig) :
    Task (StateM Host) Unit := do
  let runner ← RunnerRegistry.withDefaults.create providers .copyToOnline payload
  Task.ofExcept (← ExceptT.lift runner.wait)

def launchAll (providers : ProviderRegistry (StateM Host)) (c : CopyConfig) :
    List (Int64 × (Host → Host)) → Host → List (Except Failure Unit) × Host
  | [], h => ([], h)
  | (index, meanwhile) :: rest, h =>
    let one := (launch providers (Config.encode (chunkOf c index))).on (meanwhile h)
    let more := launchAll providers c rest one.2
    (one.1 :: more.1, more.2)

structure Resolves (providers : ProviderRegistry (StateM Host)) (c : CopyConfig) (p q : Nat) : Prop where
  offline (h : Host) : (providers.get c.offlineType c.offlineConfig).on h =
    (.ok ((Memory.provider c.offlineConfig).lift (Host.onMemory p)), h)
  online (h : Host) : (providers.get c.onlineType c.onlineConfig).on h =
    (.ok ((LocalStore.provider none c.onlineConfig).lift (Host.onLocal q)), h)

structure Undisturbed (c : CopyConfig) (p q : Nat) (before after : Host) : Prop where
  places : before.Holds p q → after.Holds p q
  snapshot : (after.memoryAt p).materializations.find? c.materialization =
    (before.memoryAt p).materializations.find? c.materialization
  table : (after.localAt q).tableNamed? (key c) = (before.localAt q).tableNamed? (key c)

variable {providers : ProviderRegistry (StateM Host)} {c : CopyConfig} {p q place : Nat} {h : Host}
  {rows : List ResourceRecord} {entries : Bindings String FeatureValue}

def sliceOf (size : Int64) (rows : List ResourceRecord) (index : Int64) : List (String × FeatureValue) :=
  (Chunk.slice size.toNatClampNeg index.toNatClampNeg rows).map entry

theorem offlineResolved (resolves : Resolves providers c p q) {type : ProviderType}
    (same : type.name = c.offlineType.name) :
    (providers.offlineStore type c.offlineConfig).on h = (.ok (Host.offline p), h) := by
  have found := resolves.offline h
  rw [ProviderRegistry.get, ← same] at found
  simp only [ProviderRegistry.offlineStore, ProviderRegistry.get, Task.onBind, found,
    Host.offlineOfProvider, Task.onExcept]
  rfl

theorem onlineResolved (resolves : Resolves providers c p q) {type : ProviderType}
    (same : type.name = c.onlineType.name) :
    (providers.onlineStore type c.onlineConfig).on h = (.ok (Host.online q), h) := by
  have found := resolves.online h
  rw [ProviderRegistry.get, ← same] at found
  simp only [ProviderRegistry.onlineStore, ProviderRegistry.get, Task.onBind, found,
    Host.onlineOfProvider, Task.onExcept]
  rfl

theorem checkOk (positive : 0 < c.chunk.size) (natural : 0 ≤ c.chunk.index) : c.chunk.check = .ok () := by
  have size : ¬ c.chunk.size ≤ 0 := Int64.not_le.mpr positive
  have index : ¬ c.chunk.index < 0 := Int64.not_lt.mpr natural
  simp [Chunk.check, Chunk.checkSize, size, index, bind, Except.bind]

theorem createdOn (resolves : Resolves providers c p q) (positive : 0 < c.chunk.size)
    (natural : 0 ≤ c.chunk.index) :
    (RunnerRegistry.withDefaults.create providers .copyToOnline (Config.encode c)).on h =
      (.ok (runner ((Host.offline p).getMaterialization c.materialization) (Host.online q) c.resource
        c.chunk), h) := by
  have registered : RunnerRegistry.withDefaults.find? JobKind.copyToOnline.name =
      some (Copy.factory (m := StateM Host)) := rfl
  simp only [RunnerRegistry.create, registered, factory, c.readBack, Task.onBind, Task.onExcept,
    Task.mapErrorOk, checkOk positive natural, offlineResolved resolves (ProviderType.nameOfName _),
    onlineResolved resolves (ProviderType.nameOfName _), Task.onPure]

theorem lookedUpOn (held : (h.memoryAt p).materializations.find? c.materialization = some rows) :
    ((Host.offline p).getMaterialization c.materialization).on h =
      (.ok (Host.snapshot p c.materialization rows), h) := by
  simp only [Host.offline, OfflineStore.lift, Memory.store, Task.onMap, Host.onMemoryAt,
    Memory.getMaterializationOn, held, Host.putMemorySame]
  rfl

theorem launchOn (resolves : Resolves providers c p q) (positive : 0 < c.chunk.size)
    (natural : 0 ≤ c.chunk.index)
    (held : (h.memoryAt p).materializations.find? c.materialization = some rows)
    (small : rows.length < 2 ^ 63)
    (named : (h.localAt q).tableNamed? (key c) = some (place, .values entries)) :
    (launch providers (Config.encode c)).on h =
      (.ok (), h.putLocal q ((h.localAt q).writeAll place (sliceOf c.chunk.size rows c.chunk.index))) := by
  have word := Int64.ofNat_toNatClampNeg c.chunk.index natural
  have copied := copyOn (p := p) c.materialization small positive (Int64.toNatClampNeg_lt c.chunk.index)
    named
  rw [word] at copied
  have looked : (body ((Host.offline p).getMaterialization c.materialization) (Host.online q) c.resource
      c.chunk).on h =
      (body (pure (Host.snapshot p c.materialization rows)) (Host.online q) c.resource c.chunk).on h := by
    rw [body, body, Task.onBind, Task.onBind, lookedUpOn held, Task.onPure]
  simp only [launch, Task.onBind, createdOn resolves positive natural, Task.onLifted, Runner.waitOn,
    runner, looked, copied, Task.onExcept]
  rfl

def copied (size : Int64) (rows : List ResourceRecord) (steps : List (Int64 × (Host → Host))) :
    List (String × FeatureValue) :=
  steps.flatMap fun s => sliceOf size rows s.1

theorem launchAllOn (resolves : Resolves providers c p q) (holds : h.Holds p q)
    (positive : 0 < c.chunk.size)
    (held : (h.memoryAt p).materializations.find? c.materialization = some rows)
    (small : rows.length < 2 ^ 63)
    (named : (h.localAt q).tableNamed? (key c) = some (place, .values entries))
    {steps : List (Int64 × (Host → Host))} (natural : ∀ s ∈ steps, 0 ≤ s.1)
    (undisturbed : ∀ s ∈ steps, ∀ h, Undisturbed c p q h (s.2 h)) :
    (launchAll providers c steps h).1 = steps.map (fun _ => .ok ()) ∧
      ((launchAll providers c steps h).2.localAt q).tableNamed? (key c) =
        some (place, .values (entries.insertAll (copied c.chunk.size rows steps))) := by
  induction steps generalizing h entries with
  | nil => exact ⟨rfl, named⟩
  | cons s rest ih =>
    obtain ⟨places, snapshot, table⟩ := undisturbed s List.mem_cons_self h
    have one := launchOn (c := chunkOf c s.1) ⟨resolves.offline, resolves.online⟩ positive
      (natural s List.mem_cons_self) (snapshot.trans held) small (table.trans named)
    have after := Host.localAtPut (places holds).online
      (((s.2 h).localAt q).writeAll place (sliceOf c.chunk.size rows s.1))
    have written := LocalStore.writeAllNamed (sliceOf c.chunk.size rows s.1) (table.trans named)
    rw [← after] at written
    -- The next job starts on the host that this one leaves.
    obtain ⟨results, left⟩ := ih ((places holds).putLocal q _) (snapshot.trans held) written
      (fun s mem => natural s (List.mem_cons_of_mem _ mem))
      fun s mem => undisturbed s (List.mem_cons_of_mem _ mem)
    have joined : (entries.insertAll (sliceOf c.chunk.size rows s.1)).insertAll
        (copied c.chunk.size rows rest) = entries.insertAll (copied c.chunk.size rows (s :: rest)) := by
      simp [Bindings.insertAll, copied]
    have ran : launchAll providers c (s :: rest) h =
        let one := (launch providers (Config.encode (chunkOf c s.1))).on (s.2 h)
        let more := launchAll providers c rest one.2
        (one.1 :: more.1, more.2) := rfl
    rw [ran, one]
    exact ⟨congrArg (.ok () :: ·) results, by rw [← joined]; exact left⟩

theorem sliceMem {index : Int64} {r : String × FeatureValue} {size : Int64}
    (mem : r ∈ sliceOf size rows index) : r ∈ rows.map entry := by
  obtain ⟨x, sliced, rfl⟩ := List.mem_map.mp mem
  exact List.mem_map_of_mem (List.mem_of_mem_drop (List.mem_of_mem_take sliced))

theorem copiedMem {size : Int64} (positive : 0 < size) (small : rows.length < 2 ^ 63)
    {steps : List (Int64 × (Host → Host))}
    (covered : ∀ index, 0 ≤ index → index < Chunk.count (.ofNat rows.length) size →
      ∃ s ∈ steps, s.1 = index) {r : String × FeatureValue} :
    r ∈ copied size rows steps ↔ r ∈ rows.map entry := by
  constructor
  · intro mem
    obtain ⟨s, -, inside⟩ := List.mem_flatMap.mp mem
    exact sliceMem inside
  · intro mem
    obtain ⟨x, inRows, rfl⟩ := List.mem_map.mp mem
    have sizes := Chunk.sizeOfPositive positive
    rw [← Chunk.slicesAll sizes.2.1 rows] at inRows
    obtain ⟨n, inRange, sliced⟩ := List.mem_flatMap.mp inRows
    have below := List.mem_range.mp inRange
    rw [Chunk.countWord positive small] at covered
    have few : Chunk.cover rows.length size.toNatClampNeg ≤ rows.length := Chunk.coverLe sizes.2.1
    have word : (Int64.ofNat n).toNatClampNeg = n := Int64.toNatClampNeg_ofNat_of_lt (by omega)
    have natural : 0 ≤ Int64.ofNat n := Chunk.wordNatural (by omega)
    have early := (Chunk.wordLt (by omega) (by omega)).mpr below
    obtain ⟨s, mem, same⟩ := covered _ natural early
    refine List.mem_flatMap.mpr ⟨s, mem, List.mem_map_of_mem ?_⟩
    rw [same, word]
    exact sliced

theorem heldDistinct (calls : List OfflineCall) {mat : MaterializationId}
    (held : (OfflineSession.run calls).memory.materializations.find? mat = some rows) {a b : ResourceRecord}
    (inA : a ∈ rows) (inB : b ∈ rows) (same : a.entity = b.entity) : a = b := by
  have built := (OfflineSession.trackedRun calls).built.snapshots mat
  rw [held, BuiltAs] at built
  split at built
  · cases built
  · obtain ⟨written, -, latest⟩ := built
    cases latest
    exact ResourceRecord.entityUnique (ResourceRecord.keptLatest written).ascending inA inB same

/-- Jobs for all chunks of a snapshot, in any order and each at least once, leave every value of the
snapshot in the table, and the other entities as they were. A list in memory is shorter than `2 ^ 63`. -/
theorem everyOrderCopies (resolves : Resolves providers c p q) (holds : h.Holds p q)
    {calls : List OfflineCall} (reached : h.memoryAt p = (OfflineSession.run calls).memory)
    (held : (h.memoryAt p).materializations.find? c.materialization = some rows)
    (small : rows.length < 2 ^ 63)
    (named : (h.localAt q).tableNamed? (key c) = some (place, .values entries))
    (positive : 0 < c.chunk.size) {steps : List (Int64 × (Host → Host))}
    (natural : ∀ s ∈ steps, 0 ≤ s.1) (undisturbed : ∀ s ∈ steps, ∀ h, Undisturbed c p q h (s.2 h))
    (covered : ∀ index, 0 ≤ index → index < Chunk.count (.ofNat rows.length) c.chunk.size →
      ∃ s ∈ steps, s.1 = index) :
    (launchAll providers c steps h).1 = steps.map (fun _ => .ok ()) ∧
      ∃ after, ((launchAll providers c steps h).2.localAt q).tableNamed? (key c) =
          some (place, .values after) ∧
        (∀ r ∈ rows, after.find? r.entity = some r.value) ∧
        ∀ e, (∀ r ∈ rows, r.entity ≠ e) → after.find? e = entries.find? e := by
  obtain ⟨succeeded, left⟩ := launchAllOn resolves holds positive held small named natural undisturbed
  refine ⟨succeeded, _, left, fun r mem => ?_, fun e absent => ?_⟩
  · refine Bindings.insertAllAgreed ?_ (.inl ⟨entry r, ?_, rfl⟩)
    · intro written inside same
      obtain ⟨x, inRows, rfl⟩ := List.mem_map.mp ((copiedMem positive small covered).mp inside)
      rw [heldDistinct calls (reached ▸ held) inRows mem same]
      rfl
    · exact (copiedMem positive small covered).mpr (List.mem_map_of_mem mem)
  · refine Bindings.insertAllAbsent fun written inside => ?_
    obtain ⟨x, inRows, rfl⟩ := List.mem_map.mp ((copiedMem positive small covered).mp inside)
    exact absent x inRows

def views : ResourceId := ⟨"views", "v1", .feature⟩

def shared : ProviderRegistry (StateM Host) :=
  (Bindings.empty.insert ProviderType.memoryOffline.name fun config =>
      pure ((Memory.provider config).lift (Host.onMemory 0))).insert ProviderType.localOnline.name
    fun config => pure ((LocalStore.provider none config).lift (Host.onLocal 0))

def viewCalls : List OfflineCall :=
  [.createResource views ⟨[⟨"entity", .string⟩, ⟨"value", .int⟩]⟩,
    .write 0 (.ofValue "alice" (.int 1)), .write 0 (.ofValue "bob" (.int 2)),
    .write 0 (.ofValue "carol" (.int 3)), .createMaterialization views]

def viewsHost : Host :=
  { Host.start none none with
    memories := [(OfflineSession.run viewCalls).memory]
    locals := [⟨Bindings.empty.insert "views__v1" 0,
      [.values ((Bindings.empty.insert "bob" (.int 9)).insert "zoe" (.int 7))], .empty⟩] }

def viewsJob : CopyConfig :=
  ⟨.memoryOffline, .empty, .localOnline, .empty, .ofResource views, views, ⟨2, 0⟩⟩

/- The last chunk first, one behind the end while another client connects, and one twice. -/
def viewSteps : List (Int64 × (Host → Host)) :=
  [(1, id), (5, fun h => { h with pools := h.pools + 1 }), (0, id), (1, id)]

theorem everyOrderCopiesViews :
    (launchAll shared viewsJob viewSteps viewsHost).1 = [.ok (), .ok (), .ok (), .ok ()] ∧
      ∃ after, ((launchAll shared viewsJob viewSteps viewsHost).2.localAt 0).tableNamed? "views__v1" =
          some (0, .values after) ∧
        after.find? "alice" = some (.int 1) ∧ after.find? "bob" = some (.int 2) ∧
        after.find? "carol" = some (.int 3) ∧ after.find? "zoe" = some (.int 7) := by
  have resolves : Resolves shared viewsJob 0 0 := ⟨fun _ => rfl, fun _ => rfl⟩
  have natural : ∀ s ∈ viewSteps, 0 ≤ s.1 := by decide
  have undisturbed : ∀ s ∈ viewSteps, ∀ h, Undisturbed viewsJob 0 0 h (s.2 h) := by
    intro s mem h
    simp only [viewSteps, List.mem_cons, List.not_mem_nil, or_false] at mem
    rcases mem with rfl | rfl | rfl | rfl <;> exact ⟨fun ⟨p, q⟩ => ⟨p, q⟩, rfl, rfl⟩
  have covered : ∀ index, 0 ≤ index → index < Chunk.count (.ofNat 3) viewsJob.chunk.size →
      ∃ s ∈ viewSteps, s.1 = index := by
    intro index natural early
    have two : Chunk.count (.ofNat 3) viewsJob.chunk.size = 2 := by decide
    rw [two, Int64.lt_iff_toInt_lt] at early
    rw [Int64.le_iff_toInt_le] at natural
    have cases : index.toInt = (0 : Int64).toInt ∨ index.toInt = (1 : Int64).toInt := by
      simp only [Int64.reduceToInt] at early natural ⊢
      omega
    rcases cases with zero | one
    · exact ⟨(0, id), by simp [viewSteps], (Int64.toInt_inj.mp zero).symm⟩
    · exact ⟨(1, id), by simp [viewSteps], (Int64.toInt_inj.mp one).symm⟩
  have held : (viewsHost.memoryAt 0).materializations.find? viewsJob.materialization =
      some [.ofValue "alice" (.int 1), .ofValue "bob" (.int 2), .ofValue "carol" (.int 3)] := rfl
  have table : (viewsHost.localAt 0).tableNamed? (key viewsJob) =
      some (0, .values ((Bindings.empty.insert "bob" (.int 9)).insert "zoe" (.int 7))) := rfl
  have reached : viewsHost.memoryAt 0 = (OfflineSession.run viewCalls).memory := rfl
  obtain ⟨succeeded, after, named, values, others⟩ := everyOrderCopies resolves ⟨by decide, by decide⟩
    reached held (by decide) table (by decide) natural undisturbed covered
  refine ⟨succeeded, after, named, ?_, ?_, ?_, ?_⟩
  · exact values (.ofValue "alice" (.int 1)) (by simp)
  · exact values (.ofValue "bob" (.int 2)) (by simp)
  · exact values (.ofValue "carol" (.int 3)) (by simp)
  · rw [others "zoe" (by simp [ResourceRecord.ofValue])]
    rfl

end Copy
end FeatureStore
