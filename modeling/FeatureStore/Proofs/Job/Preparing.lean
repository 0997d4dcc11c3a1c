import FeatureStore.Proofs.Job.Standalone
import FeatureStore.Proofs.Offline.Snapshots
import FeatureStore.Proofs.Online.Contents

/-!
What a job that materializes a feature leaves behind when it fails before it copies anything. It builds
its snapshot first and makes the online table ready afterwards; nothing takes the snapshot back when the
table cannot be had.
-/
namespace FeatureStore

theorem Host.putMemoryTwice (h : Host) (place : Nat) (m n : Memory) :
    (h.putMemory place m).putMemory place n = h.putMemory place n := by
  simp [Host.putMemory]

namespace Materialize
variable {p q : Nat} {dims : Option Nat} {c : MaterializeConfig}
  {providers : ProviderRegistry (StateM Host)} {payload : SerializedConfig}

section Parts
variable {m : Type → Type} [Monad m]

def prepare (offline : OfflineStore m) (online : OnlineStore m) (c : MaterializeConfig) :
    Task m (Materialization m) :=
  (if c.isUpdate then offline.updateMaterialization c.resource
    else offline.createMaterialization c.resource) >>= fun mat => do
      ensureTable online c.resource c.valueType c.isUpdate
      return mat

def copyAll (arrange : List Nat → List Nat) (online : OnlineStore m) (c : MaterializeConfig)
    (mat : Materialization m) : Task m Unit := do
  let numRows ← mat.numRows
  let count := (Chunk.count numRows c.chunkSize).toNatClampNeg
  let results ← ExceptT.lift (copyEach mat online c.resource c.chunkSize (arrange (List.range count)))
  Task.ofExcept (report count results)

theorem bodyParts [LawfulMonad m] (arrange : List Nat → List Nat) (offline : OfflineStore m)
    (online : OnlineStore m) (c : MaterializeConfig) :
    body arrange offline online c = prepare offline online c >>= copyAll arrange online c := by
  unfold body prepare copyAll
  cases c.isUpdate <;> simp only [Bool.false_eq_true, if_false, if_true, bind_assoc, pure_bind]

end Parts

theorem prepareOn (dims : Option Nat) (c : MaterializeConfig) (p q : Nat) (h : Host) :
    (prepare (Host.offline p) (Host.localStore dims q) c).on h =
      match build c (h.memoryAt p) with
      | .error e => (.error (.error e), h)
      | .ok rows =>
        let built := h.putMemory p ((h.memoryAt p).putMaterialization (.ofResource c.resource) rows)
        match readyIn dims c (h.localAt q) with
        | .error e => (.error (.error e), built)
        | .ok (_, s) => (.ok (Host.snapshot p (.ofResource c.resource) rows), built.putLocal q s) := by
  rw [prepare, Task.onBind, snapshotOn]
  rcases build c (h.memoryAt p) with e | rows
  · rfl
  · simp only [Task.onBind, ensureInOn]
    have same : (h.putMemory p ((h.memoryAt p).putMaterialization (.ofResource c.resource) rows)).localAt q =
        h.localAt q := rfl
    rw [same]
    rcases readyIn dims c (h.localAt q) with e | ⟨place, s⟩ <;> rfl

structure Resolves (providers : ProviderRegistry (StateM Host)) (c : MaterializeConfig)
    (dims : Option Nat) (p q : Nat) : Prop where
  offline (h : Host) :
    (providers.offlineStore c.offlineType c.offlineConfig).on h = (.ok (Host.offline p), h)
  online (h : Host) :
    (providers.onlineStore c.onlineType c.onlineConfig).on h = (.ok (Host.localStore dims q), h)

structure Accepts (payload : SerializedConfig) (c : MaterializeConfig) : Prop where
  decoded : Config.decode MaterializeConfig payload = .ok c
  typed : c.resource.checkType [.feature] = .ok ()
  sized : Chunk.checkSize c.chunkSize = .ok ()

def submit (arrange : List Nat → List Nat) (providers : ProviderRegistry (StateM Host))
    (payload : SerializedConfig) : Task (StateM Host) Unit := do
  let runner ← factory arrange providers payload
  Task.ofExcept (← ExceptT.lift runner.wait)

variable (arrange : List Nat → List Nat)

theorem factoryOn (resolves : Resolves providers c dims p q) (accepts : Accepts payload c) (h : Host) :
    (factory arrange providers payload).on h =
      (.ok ⟨JobKind.materialize.name, body arrange (Host.offline p) (Host.localStore dims q) c⟩, h) := by
  simp only [factory, Task.onBind, Task.onExcept, accepts.decoded, accepts.typed, accepts.sized,
    Task.mapErrorOk, resolves.offline, resolves.online, Task.onPure]

theorem submitFails (resolves : Resolves providers c dims p q) (accepts : Accepts payload c)
    {h after : Host} {e : Error}
    (failed : (prepare (Host.offline p) (Host.localStore dims q) c).on h = (.error (.error e), after)) :
    (submit arrange providers payload).on h =
      (.error (.error (.jobFailed JobKind.materialize.name e.message)), after) := by
  have ran : (body arrange (Host.offline p) (Host.localStore dims q) c).on h =
      (.error (.error e), after) := by
    rw [bodyParts, Task.onBind, failed]
  simp only [submit, Task.onBind, factoryOn arrange resolves accepts, Task.onLifted, Runner.waitOn, ran,
    Task.onExcept]
  rfl

def key (c : MaterializeConfig) : String := onlineTableKey "" c.resource.name c.resource.variant

def snapshotOf (c : MaterializeConfig) : MaterializationId := .ofResource c.resource

theorem readyFails {s : LocalStore} {e : Error}
    (listed : ∀ name, s.names.contains name = true → ∃ found, s.tableNamed? name = some found)
    (failed : readyIn dims c s = .error e) :
    c.isUpdate = false ∧ e = .alreadyExists "online table" (key c) ∧ s.names.contains (key c) = true := by
  rw [readyIn] at failed
  split at failed
  · cases failed
  · rename_i missing
    split at failed <;> cases failed
    rename_i taken
    refine ⟨?_, rfl, taken⟩
    obtain ⟨⟨place, t⟩, found⟩ := listed _ taken
    cases update : c.isUpdate with
    | false => rfl
    | true => exact absurd found (missing place t update)

theorem listedRun (dims : Option Nat) (initial : Vectors) (calls : List OnlineCall) (name : String)
    (taken : (LocalSession.run dims initial calls).store.names.contains name = true) :
    ∃ found, (LocalSession.run dims initial calls).store.tableNamed? name = some found := by
  have tracked := LocalSession.trackedRun dims initial calls
  rw [Bindings.contains, tracked.names, Option.isSome_map] at taken
  obtain ⟨m, stands⟩ := Option.isSome_iff_exists.mp taken
  rw [tracked.tableNamed, stands]
  exact ⟨_, rfl⟩

theorem buildOk {m : Memory} {rows : List ResourceRecord} (built : build c m = .ok rows) :
    m.snapshot c.resource = .ok rows ∧
      (c.isUpdate = false → m.materializations.contains (snapshotOf c) = false) := by
  rw [build] at built
  split at built
  · cases built
  · rename_i free
    refine ⟨built, fun create => ?_⟩
    simpa [create, snapshotOf] using free

/-- A job has built a snapshot that was not there before and has found its online table taken. The
snapshot is all that it leaves; while it is there the same job fails, and deleting it takes the host back
to where it was. The same job as an update gets past both steps. -/
structure SnapshotStays (arrange : List Nat → List Nat) (providers : ProviderRegistry (StateM Host))
    (payload : SerializedConfig) (c : MaterializeConfig) (dims : Option Nat) (p q : Nat) (e : Error)
    (h after : Host) : Prop where
  creates : c.isUpdate = false
  taken : e = .alreadyExists "online table" (key c)
  table : (h.localAt q).names.contains (key c) = true
  missing : (h.memoryAt p).materializations.find? (snapshotOf c) = none
  left : ∃ rows, (h.memoryAt p).snapshot c.resource = .ok rows ∧
    after = h.putMemory p ((h.memoryAt p).putMaterialization (snapshotOf c) rows)
  again (later : Host) : (later.memoryAt p).materializations.contains (snapshotOf c) = true →
    (submit arrange providers payload).on later =
      (.error (.error (.jobFailed JobKind.materialize.name
        (Error.alreadyExists "materialization" (snapshotOf c).text).message)), later)
  restored : ((Host.offline p).deleteMaterialization (snapshotOf c)).on after = (.ok (), h)
  update : ∃ mat, ((prepare (Host.offline p) (Host.localStore dims q)
    { c with isUpdate := true }).on after).1 = .ok mat

theorem submitAgain (resolves : Resolves providers c dims p q) (accepts : Accepts payload c)
    (creates : c.isUpdate = false) {later : Host}
    (there : (later.memoryAt p).materializations.contains (snapshotOf c) = true) :
    (submit arrange providers payload).on later =
      (.error (.error (.jobFailed JobKind.materialize.name
        (Error.alreadyExists "materialization" (snapshotOf c).text).message)), later) := by
  have refused : build c (later.memoryAt p) =
      .error (.alreadyExists "materialization" (snapshotOf c).text) := by
    rw [snapshotOf] at there
    rw [build, creates, there]
    rfl
  refine submitFails arrange resolves accepts ?_
  rw [prepareOn, refused]

theorem deleteNewOn {h : Host} (inside : p < h.memories.length) {mat : MaterializationId}
    (missing : (h.memoryAt p).materializations.contains mat = false) (rows : List ResourceRecord) :
    ((Host.offline p).deleteMaterialization mat).on
      (h.putMemory p ((h.memoryAt p).putMaterialization mat rows)) = (.ok (), h) := by
  have there : ((h.memoryAt p).putMaterialization mat rows).materializations.contains mat = true := by
    rw [Memory.putMaterialization, Bindings.contains, Bindings.findInsert, if_pos rfl, Option.isSome_some]
  have back : ((h.memoryAt p).putMaterialization mat rows).dropMaterialization mat = h.memoryAt p := by
    simp only [Memory.dropMaterialization, Memory.putMaterialization, Bindings.eraseInsertNew rows missing]
  simp only [Host.offline, OfflineStore.lift, Memory.store, Host.onMemoryAt, Host.memoryAtPut inside,
    Memory.deleteMaterializationOn, there, if_true, back, Host.putMemoryTwice, Host.putMemorySame]

theorem updatePrepares {h : Host} (inside : p < h.memories.length) {rows : List ResourceRecord}
    (built : (h.memoryAt p).snapshot c.resource = .ok rows) {found : Nat × LocalTable}
    (named : (h.localAt q).tableNamed? (key c) = some found) :
    ∃ mat, ((prepare (Host.offline p) (Host.localStore dims q) { c with isUpdate := true }).on
      (h.putMemory p ((h.memoryAt p).putMaterialization (snapshotOf c) rows))).1 = .ok mat := by
  have again : build { c with isUpdate := true }
      ((h.memoryAt p).putMaterialization (snapshotOf c) rows) = .ok rows :=
    ((Memory.SameBut.put rows).snapshot c.resource).trans built
  have ready : readyIn dims { c with isUpdate := true } (h.localAt q) = .ok (found.1, h.localAt q) := by
    rw [key] at named
    rw [readyIn, named]
  have same : (h.putMemory p ((h.memoryAt p).putMaterialization (snapshotOf c) rows)).localAt q =
      h.localAt q := rfl
  rw [prepareOn, Host.memoryAtPut inside, again, same, ready]
  exact ⟨_, rfl⟩

/-- Where a job fails before it copies anything, the online store is as before. A job that could not build
its snapshot has changed nothing, so that the same job can be submitted again; one that found its table
taken leaves the snapshot that it has built. -/
theorem failedPreparation {initial : Vectors} {calls : List OnlineCall} {h after : Host} {f : Failure}
    (resolves : Resolves providers c dims p q) (accepts : Accepts payload c) (holds : h.Holds p q)
    (reached : h.localAt q = (LocalSession.run dims initial calls).store)
    (failed : (prepare (Host.offline p) (Host.localStore dims q) c).on h = (.error f, after)) :
    after.locals = h.locals ∧ ∃ e, f = .error e ∧
      (submit arrange providers payload).on h =
        (.error (.error (.jobFailed JobKind.materialize.name e.message)), after) ∧
      ((build c (h.memoryAt p) = .error e ∧ after = h) ∨
        SnapshotStays arrange providers payload c dims p q e h after) := by
  have listed := listedRun dims initial calls
  rw [← reached] at listed
  have computed := prepareOn dims c p q h
  rw [failed] at computed
  cases built : build c (h.memoryAt p) with
  | error e =>
    rw [built] at computed
    cases computed
    exact ⟨rfl, e, rfl, submitFails arrange resolves accepts failed, .inl ⟨rfl, rfl⟩⟩
  | ok rows =>
    cases prepared : readyIn dims c (h.localAt q) with
    | ok readied =>
      simp only [built, prepared] at computed
      cases computed
    | error e =>
      simp only [built, prepared] at computed
      cases computed
      obtain ⟨creates, taken, table⟩ := readyFails listed prepared
      obtain ⟨snapshot, free⟩ := buildOk built
      obtain ⟨found, named⟩ := listed (key c) table
      refine ⟨rfl, e, rfl, submitFails arrange resolves accepts failed, .inr ⟨creates, taken, table, ?_, ?_, ?_, ?_, ?_⟩⟩
      · exact Bindings.notContainsIff.mp (free creates)
      · exact ⟨rows, snapshot, rfl⟩
      · exact fun later there => submitAgain arrange resolves accepts creates there
      · exact deleteNewOn holds.offline (free creates) rows
      · exact updatePrepares holds.offline snapshot named

def carts : ResourceId := ⟨"carts", "v1", .feature⟩

def cartCalls : List OfflineCall :=
  [.createResource carts ⟨[⟨"entity", .string⟩, ⟨"value", .int⟩]⟩, .write 0 (.ofValue "alice" (.int 1))]

def cartsHost : Host :=
  { Host.start none none with
    memories := [(OfflineSession.run cartCalls).memory]
    locals := [(LocalSession.run none .empty [.createTable "carts" "v1" .int]).store] }

def cartsJob : MaterializeConfig :=
  ⟨.memoryOffline, .empty, .localOnline, .empty, carts, .int, false, 1024⟩

def cartsLeft : Host :=
  cartsHost.putMemory 0 ((cartsHost.memoryAt 0).putMaterialization (.ofResource carts)
    [.ofValue "alice" (.int 1)])

theorem cartsFail :
    (prepare (Host.offline 0) (Host.localStore none 0) cartsJob).on cartsHost =
      (.error (.error (.alreadyExists "online table" "carts__v1")), cartsLeft) := by
  rw [prepareOn]
  rfl

theorem cartsResolved : Resolves Copy.shared cartsJob none 0 0 := ⟨fun _ => rfl, fun _ => rfl⟩

theorem cartsAccepted : Accepts (Config.encode cartsJob) cartsJob :=
  ⟨cartsJob.readBack, rfl, rfl⟩

theorem failedPreparationCarts :
    SnapshotStays id Copy.shared (Config.encode cartsJob) cartsJob none 0 0
      (.alreadyExists "online table" "carts__v1") cartsHost cartsLeft := by
  obtain ⟨-, e, same, -, ⟨refused, -⟩ | stays⟩ :=
    failedPreparation id cartsResolved cartsAccepted ⟨by decide, by decide⟩ rfl cartsFail
  · have built : build cartsJob (cartsHost.memoryAt 0) = .ok [.ofValue "alice" (.int 1)] := rfl
    cases built.symm.trans refused
  · cases same
    exact stays

theorem failedJobLeavesSnapshot :
    let job := submit id Copy.shared (Config.encode cartsJob)
    let freed := ((Host.localStore none 0).deleteTable "carts" "v1").on cartsLeft
    job.on cartsHost =
        (.error (.error (.jobFailed "MATERIALIZE" "online table 'carts__v1' already exists")), cartsLeft) ∧
      (cartsHost.memoryAt 0).materializations.find? (.ofResource carts) = none ∧
      (cartsLeft.memoryAt 0).materializations.find? (.ofResource carts) =
        some [.ofValue "alice" (.int 1)] ∧
      freed.1 = .ok () ∧
      job.on freed.2 = (.error (.error (.jobFailed "MATERIALIZE"
        "materialization 'Materialization/carts/v1' already exists")), freed.2) :=
  ⟨submitFails id cartsResolved cartsAccepted cartsFail, rfl, rfl, rfl,
    submitAgain id cartsResolved cartsAccepted rfl rfl⟩

end Materialize
end FeatureStore
