import FeatureStore.Proofs.Job.Preparing
import FeatureStore.Proofs.Online.Batches
import FeatureStore.Worker.Run

/-!
A worker whose offline store is in memory. The store is made for the job, so that nothing is in it when
the job starts; no kind of job takes that for a success, and the worker tells what it did not find.
-/
namespace FeatureStore.Worker

/- A task that does not break off, and after which the offline stores in memory are in their places as
they were. -/
def Spares {α : Type} (t : Task (StateM Host) α) : Prop :=
  ∀ h, h.memories <+: (t.on h).2.memories ∧ (t.on h).1 ≠ .error .panic

namespace Spares
variable {α β : Type}

theorem pure (a : α) : Spares (Pure.pure a) := fun h => ⟨h.memories.prefix_rfl, nofun⟩

theorem fail (e : Error) : Spares (Task.fail e : Task (StateM Host) α) :=
  fun h => ⟨h.memories.prefix_rfl, nofun⟩

theorem ofExcept (x : Except Error α) : Spares (Task.ofExcept x) := by
  cases x with
  | error e => exact fail e
  | ok a => exact pure a

theorem bind {t : Task (StateM Host) α} {f : α → Task (StateM Host) β} (first : Spares t)
    (next : ∀ a, Spares (f a)) : Spares (t >>= f) := by
  intro h
  obtain ⟨kept, whole⟩ := first h
  rw [Task.onBind]
  rcases ended : t.on h with ⟨e | a, mid⟩ <;> rw [ended] at kept whole
  · exact ⟨kept, fun panic => whole (by cases panic; rfl)⟩
  · exact ⟨kept.trans (next a mid).1, (next a mid).2⟩

theorem change (f : Host → Host) (g : Host → α) (grows : ∀ h : Host, h.memories <+: (f h).memories) :
    Spares (do
      let h ← getThe Host
      set (f h)
      return g h) :=
  fun h => ⟨grows h, nofun⟩

end Spares

theorem greetingSpares (context : String) (commands : List Redis.Command) :
    Spares (ExceptT.mk (Host.onRedis (Redis.sendAll context commands).run)) := by
  intro h
  refine ⟨h.memories.prefix_rfl, ?_⟩
  have answer : (Task.on (ExceptT.mk (Host.onRedis (Redis.sendAll context commands).run)) h).1 =
      ((Redis.onServer (Redis.sendAll context commands).run).run h.redis).1 := rfl
  rw [answer, ← bind_pure (Redis.sendAll context commands), Redis.sendAllAsks, Redis.onServerAsk]
  split <;> nofun

theorem backendSpares {name : String} {factory : Host.Factory}
    (found : Host.providers.find? name = some factory) (config : SerializedConfig) :
    Spares (factory config) := by
  have listed : (name, factory) ∈ Host.backends := Bindings.foundEntry found
  -- Only the second of the backends adds to the stores in memory, and it adds behind them.
  simp only [Host.backends, List.mem_cons, List.not_mem_nil, or_false, Prod.mk.injEq] at listed
  rcases listed with ⟨-, rfl⟩ | ⟨-, rfl⟩ | ⟨-, rfl⟩ | ⟨-, rfl⟩
  · exact .change _ _ fun h => h.memories.prefix_rfl
  · exact .change _ _ fun h => List.prefix_append _ _
  · refine .bind (.ofExcept _) fun c => .bind (.ofExcept _) fun _ => ?_
    refine .bind (fun h => ⟨h.memories.prefix_rfl, nofun⟩) fun h => ?_
    split
    · exact .fail _
    · exact .bind (greetingSpares _ _) fun _ => .pure _
  · refine .bind (.ofExcept _) fun c => .bind (.ofExcept _) fun who => ?_
    exact .change _ _ fun h => h.memories.prefix_rfl

theorem providerSpares (type : ProviderType) (config : SerializedConfig) :
    Spares (Host.providers.get type config) := by
  unfold ProviderRegistry.get
  split
  · rename_i factory found
    exact backendSpares found config
  · exact .fail _

theorem offlineSpares (type : ProviderType) (config : SerializedConfig) :
    Spares (Host.providers.offlineStore type config) :=
  .bind (providerSpares type config) fun _ => .ofExcept _

theorem onlineSpares (type : ProviderType) (config : SerializedConfig) :
    Spares (Host.providers.onlineStore type config) :=
  .bind (providerSpares type config) fun _ => .ofExcept _

def Vacant (place : Nat) (h : Host) : Prop := h.memories[place]? = some Memory.empty

namespace Vacant
variable {place : Nat} {h : Host}

theorem memory (vacant : Vacant place h) : h.memoryAt place = Memory.empty := by
  unfold Vacant at vacant
  rw [Host.memoryAt, List.getD_eq_getElem?_getD, vacant]
  rfl

theorem later {after : Host} (vacant : Vacant place h) (grown : h.memories <+: after.memories) :
    Vacant place after := by
  obtain ⟨more, grown⟩ := grown
  unfold Vacant at vacant ⊢
  rw [← grown, List.getElem?_append_left (List.getElem?_eq_some_iff.mp vacant).1, vacant]

theorem onlineThen {α : Type} {f : OnlineStore (StateM Host) → Task (StateM Host) α} {a : α} {after : Host}
    {type : ProviderType} {config : SerializedConfig} (vacant : Vacant place h)
    (ok : (Host.providers.onlineStore type config >>= f).on h = (.ok a, after)) :
    ∃ online mid, Vacant place mid ∧ (f online).on mid = (.ok a, after) := by
  obtain ⟨online, mid, served, ok⟩ := Task.onBindOk ok
  have grown := (onlineSpares type config h).1
  rw [served] at grown
  exact ⟨online, mid, vacant.later grown, ok⟩

end Vacant

theorem offlineThen {α : Type} {f : OfflineStore (StateM Host) → Task (StateM Host) α} {a : α}
    {h after : Host} {type : ProviderType} {config : SerializedConfig}
    (memory : type.name = ProviderType.memoryOffline.name)
    (ok : (Host.providers.offlineStore type config >>= f).on h = (.ok a, after)) :
    ∃ place mid, Vacant place mid ∧ (f (Host.offline place)).on mid = (.ok a, after) := by
  have bound : Host.providers.find? ProviderType.memoryOffline.name = some Host.memoryFactory := rfl
  obtain ⟨offline, mid, made, ok⟩ := Task.onBindOk ok
  obtain ⟨provider, _, got, served⟩ := Task.onBindOk made
  rw [ProviderRegistry.get, memory, bound] at got
  cases got
  cases served
  exact ⟨h.memories.length, _, by simp [Vacant], ok⟩

inductive Missing (payload : SerializedConfig) : JobKind → Error → Prop where
  | engine {c : TransformationJob} (read : Config.decode TransformationJob payload = .ok c) :
    Missing payload .createTransformation
      (.unsupported ("memory offline store cannot run transformation " ++ c.transformation.target.text))
  | definition {c : TrainingSetConfig} {e : Error} (read : Config.decode TrainingSetConfig payload = .ok c)
      (refused : c.definition.check = .error e) : Missing payload .createTrainingSet e
  | label {c : TrainingSetConfig} (read : Config.decode TrainingSetConfig payload = .ok c)
      (sound : c.definition.check = .ok ()) :
    Missing payload .createTrainingSet (.notFound "resource table" c.definition.label.text)
  | feature {c : MaterializeConfig} (read : Config.decode MaterializeConfig payload = .ok c) :
    Missing payload .materialize (.notFound "resource table" c.resource.text)
  | snapshot {c : CopyConfig} (read : Config.decode CopyConfig payload = .ok c) :
    Missing payload .copyToOnline (.notFound "materialization" c.materialization.text)
  | source {c : SourceConfig} (read : Config.decode SourceConfig payload = .ok c) :
    Missing payload .registerSource (.notFound "source table" c.sourceTable)

section
variable {place : Nat} {h : Host}

theorem transformationEnds (c : TransformationJob) :
    ((TransformationJob.body (Host.offline place) c).on h).1 = .error (.error
      (.unsupported ("memory offline store cannot run transformation " ++ c.transformation.target.text))) := by
  unfold TransformationJob.body
  cases c.isUpdate <;> rfl

theorem trainingSetEnds (vacant : Vacant place h) (c : TrainingSetConfig) :
    ((TrainingSetConfig.body (Host.offline place) c).on h).1 = .error (.error
      (match c.definition.check with
        | .error e => e
        | .ok () => .notFound "resource table" c.definition.label.text)) := by
  have rows : Memory.empty.trainingRows c.definition = .error
      (match c.definition.check with
        | .error e => e
        | .ok () => .notFound "resource table" c.definition.label.text) := by
    unfold Memory.trainingRows
    rcases c.definition.check with e | _ <;> rfl
  have new : Memory.empty.trainingSets.contains c.definition.id = false := rfl
  unfold TrainingSetConfig.body
  cases c.isUpdate
  · simp only [Bool.false_eq_true, if_false, Host.offline, OfflineStore.lift, Memory.store, Host.onMemoryAt,
      vacant.memory, Memory.createTrainingSetOn, new, rows, Memory.failed]
  · simp only [if_true, Host.offline, OfflineStore.lift, Memory.store, Host.onMemoryAt, vacant.memory,
      Memory.updateTrainingSetOn, rows, Memory.failed]

theorem materializeEnds (vacant : Vacant place h) (arrange : List Nat → List Nat)
    (online : OnlineStore (StateM Host)) {c : MaterializeConfig}
    (typed : c.resource.checkType [.feature] = .ok ()) :
    ((Materialize.body arrange (Host.offline place) online c).on h).1 =
      .error (.error (.notFound "resource table" c.resource.text)) := by
  have rows : Materialize.build c Memory.empty = .error (.notFound "resource table" c.resource.text) := by
    have free : Memory.empty.materializations.contains (.ofResource c.resource) = false := rfl
    unfold Materialize.build Memory.snapshot
    simp only [free, Bool.and_false, Bool.false_eq_true, if_false, typed]
    rfl
  rw [Materialize.bodyParts, Materialize.prepare, Task.onBind, Task.onBind, Materialize.snapshotOn,
    vacant.memory, rows]

theorem copyEnds (vacant : Vacant place h) (mat : MaterializationId) (online : OnlineStore (StateM Host))
    (resource : ResourceId) (chunk : Chunk) :
    ((Copy.body ((Host.offline place).getMaterialization mat) online resource chunk).on h).1 =
      .error (.error (.notFound "materialization" mat.text)) := by
  have missing : Memory.empty.materializations.find? mat = none := rfl
  unfold Copy.body
  simp only [Task.onBind, Host.offline, OfflineStore.lift, Memory.store, Task.onMap, Host.onMemoryAt,
    vacant.memory, Memory.getMaterializationOn, missing, Memory.failed]
  rfl

theorem sourceEnds (vacant : Vacant place h) {c : SourceConfig}
    (typed : c.resource.checkType [.primary] = .ok ()) :
    ((SourceConfig.body (Host.offline place) c).on h).1 =
      .error (.error (.notFound "source table" c.sourceTable)) := by
  have free : Memory.empty.primaries.contains c.resource = false := rfl
  have missing : Memory.primaryNamed? Memory.empty c.sourceTable = none := rfl
  unfold SourceConfig.body
  simp only [Task.onBind, Host.offline, OfflineStore.lift, Memory.store, Task.onMap, Host.onMemoryAt,
    vacant.memory, Memory.registerPrimaryOn, typed, free, missing, Memory.failed]
  rfl

end

def offlineType? (payload : SerializedConfig) : JobKind → Option ProviderType
  | .createTransformation => (Config.decode TransformationJob payload).toOption.map (·.offlineType)
  | .createTrainingSet => (Config.decode TrainingSetConfig payload).toOption.map (·.offlineType)
  | .materialize => (Config.decode MaterializeConfig payload).toOption.map (·.offlineType)
  | .copyToOnline => (Config.decode CopyConfig payload).toOption.map (·.offlineType)
  | .registerSource => (Config.decode SourceConfig payload).toOption.map (·.offlineType)
  | .other _ => none

/- However a payload is written, what is read of it is a job in memory. -/
def InMemory (kind : JobKind) (payload : SerializedConfig) : Prop :=
  ∀ type, offlineType? payload kind = some type → type.name = ProviderType.memoryOffline.name

theorem factorySpares {name : String} {factory : RunnerFactory (StateM Host)}
    (found : RunnerRegistry.withDefaults.find? name = some factory) (payload : SerializedConfig) :
    Spares (factory Host.providers payload) := by
  have listed : (name, factory) ∈ RunnerRegistry.defaults := Bindings.foundEntry found
  simp only [RunnerRegistry.defaults, List.mem_cons, List.not_mem_nil, or_false, Prod.mk.injEq] at listed
  rcases listed with ⟨-, rfl⟩ | ⟨-, rfl⟩ | ⟨-, rfl⟩ | ⟨-, rfl⟩ | ⟨-, rfl⟩
  · exact .bind (.ofExcept _) fun c => .bind (offlineSpares _ _) fun _ => .pure _
  · exact .bind (.ofExcept _) fun c => .bind (offlineSpares _ _) fun _ => .pure _
  · exact .bind (.ofExcept _) fun c => .bind (.ofExcept _) fun _ => .bind (.ofExcept _) fun _ =>
      .bind (offlineSpares _ _) fun _ => .bind (onlineSpares _ _) fun _ => .pure _
  · exact .bind (.ofExcept _) fun c => .bind (.ofExcept _) fun _ =>
      .bind (offlineSpares _ _) fun _ => .bind (onlineSpares _ _) fun _ => .pure _
  · exact .bind (.ofExcept _) fun c => .bind (.ofExcept _) fun _ =>
      .bind (offlineSpares _ _) fun _ => .pure _

section
variable {payload : SerializedConfig} {runner : Runner (StateM Host)} {h after : Host}

theorem transformationFails (inMemory : InMemory .createTransformation payload)
    (made : (TransformationJob.factory Host.providers payload).on h = (.ok runner, after)) :
    ∃ e, (runner.body.on after).1 = .error (.error e) ∧ Missing payload .createTransformation e := by
  obtain ⟨c, read, made⟩ := Task.exceptThen made
  obtain ⟨place, mid, -, made⟩ := offlineThen (inMemory _ (by rw [offlineType?, read]; rfl)) made
  cases made
  exact ⟨_, transformationEnds c, .engine read⟩

theorem trainingSetFails (inMemory : InMemory .createTrainingSet payload)
    (made : (TrainingSetConfig.factory Host.providers payload).on h = (.ok runner, after)) :
    ∃ e, (runner.body.on after).1 = .error (.error e) ∧ Missing payload .createTrainingSet e := by
  obtain ⟨c, read, made⟩ := Task.exceptThen made
  obtain ⟨place, mid, vacant, made⟩ := offlineThen (inMemory _ (by rw [offlineType?, read]; rfl)) made
  cases made
  refine ⟨_, trainingSetEnds vacant c, ?_⟩
  split
  · rename_i e refused
    exact .definition read refused
  · rename_i sound
    exact .label read sound

theorem materializeFails {arrange : List Nat → List Nat} (inMemory : InMemory .materialize payload)
    (made : (Materialize.factory arrange Host.providers payload).on h = (.ok runner, after)) :
    ∃ e, (runner.body.on after).1 = .error (.error e) ∧ Missing payload .materialize e := by
  obtain ⟨c, read, made⟩ := Task.exceptThen made
  obtain ⟨_, typed, made⟩ := Task.exceptThen made
  obtain ⟨_, -, made⟩ := Task.exceptThen made
  obtain ⟨place, _, vacant, made⟩ := offlineThen (inMemory _ (by rw [offlineType?, read]; rfl)) made
  obtain ⟨online, _, vacant, made⟩ := vacant.onlineThen made
  cases made
  exact ⟨_, materializeEnds vacant arrange online typed, .feature read⟩

theorem copyFails (inMemory : InMemory .copyToOnline payload)
    (made : (Copy.factory Host.providers payload).on h = (.ok runner, after)) :
    ∃ e, (runner.body.on after).1 = .error (.error e) ∧ Missing payload .copyToOnline e := by
  obtain ⟨c, read, made⟩ := Task.exceptThen made
  obtain ⟨_, -, made⟩ := Task.exceptThen made
  obtain ⟨place, _, vacant, made⟩ := offlineThen (inMemory _ (by rw [offlineType?, read]; rfl)) made
  obtain ⟨online, _, vacant, made⟩ := vacant.onlineThen made
  cases made
  exact ⟨_, copyEnds vacant c.materialization online c.resource c.chunk, .snapshot read⟩

theorem sourceFails (inMemory : InMemory .registerSource payload)
    (made : (SourceConfig.factory Host.providers payload).on h = (.ok runner, after)) :
    ∃ e, (runner.body.on after).1 = .error (.error e) ∧ Missing payload .registerSource e := by
  obtain ⟨c, read, made⟩ := Task.exceptThen made
  obtain ⟨_, sound, made⟩ := Task.exceptThen made
  obtain ⟨_, typed, -⟩ := Task.boundOk sound
  obtain ⟨place, mid, vacant, made⟩ := offlineThen (inMemory _ (by rw [offlineType?, read]; rfl)) made
  cases made
  exact ⟨_, sourceEnds vacant typed, .source read⟩

theorem jobFails {kind : JobKind} (inMemory : InMemory (.ofName kind.name) payload)
    (made : (RunnerRegistry.withDefaults.create Host.providers kind payload).on h = (.ok runner, after)) :
    ∃ e, (runner.body.on after).1 = .error (.error e) ∧ Missing payload (.ofName kind.name) e := by
  unfold RunnerRegistry.create at made
  split at made
  · rename_i factory found
    have listed : (kind.name, factory) ∈ RunnerRegistry.defaults := Bindings.foundEntry found
    -- The name has led to the factory, and the same name says how the payload was to be read.
    simp only [RunnerRegistry.defaults, List.mem_cons, List.not_mem_nil, or_false,
      Prod.mk.injEq] at listed
    rcases listed with ⟨named, rfl⟩ | ⟨named, rfl⟩ | ⟨named, rfl⟩ | ⟨named, rfl⟩ | ⟨named, rfl⟩ <;>
      rw [named] at inMemory ⊢
    · exact transformationFails inMemory made
    · exact trainingSetFails inMemory made
    · exact materializeFails inMemory made
    · exact copyFails inMemory made
    · exact sourceFails inMemory made
  · cases made

theorem createSpares (kind : JobKind) (payload : SerializedConfig) :
    Spares (RunnerRegistry.withDefaults.create Host.providers kind payload) := by
  unfold RunnerRegistry.create
  split
  · rename_i factory found
    exact factorySpares found payload
  · exact .fail _

end

theorem runOnSteps (h : Host) (kind : JobKind) (payload : SerializedConfig) :
    runOn h kind payload =
      match (RunnerRegistry.withDefaults.create Host.providers kind payload).on h with
      | (.error (.error e), after) =>
        (.error ((Report.ofError e).within ("creating " ++ kind.name ++ " runner")), after)
      | (.error .panic, after) =>
        (.error (.ofMessage (Error.message (.jobFailed kind.name "job panicked"))), after)
      | (.ok runner, after) =>
        ((runner.wait.run after).1.mapError Report.ofError, (runner.wait.run after).2) := by
  have made : (RunnerRegistry.withDefaults.create Host.providers kind payload).run.run h =
      (RunnerRegistry.withDefaults.create Host.providers kind payload).on h := rfl
  rw [runOn, runJob, Task.runThen, made]
  rcases (RunnerRegistry.withDefaults.create Host.providers kind payload).on h with
    ⟨(e | _) | runner, after⟩
  · rfl
  · rfl
  · simp only [Task.runThen]
    rcases (runner.wait.run after).1 with e | _ <;> rfl

theorem executeFails {files : String → Id FileContent} {h : Host} {o : Options} {source : Payload}
    {payload : SerializedConfig} {report : Report}
    (given : Payload.ofOptions o.jobConfig o.jobConfigFile = .ok source)
    (read : source.read files = .ok payload)
    (failed : (runOn h (.ofName o.jobKind) payload).1 = .error report) :
    (execute files h o).1.status = 1 := by
  unfold execute
  simp only [given, bind, pure]
  rcases Settings.load (files o.settings) with r | s
  · rfl
  · simp only [read]
    rcases ran : runOn h (.ofName o.jobKind) payload with ⟨r | done, after⟩
    · rfl
    · rw [ran] at failed
      cases failed

inductive Explains (h : Host) (kind : JobKind) (payload : SerializedConfig) : Report → Prop where
  | unmade {e : Error} {after : Host}
      (refused : (RunnerRegistry.withDefaults.create Host.providers kind payload).on h =
        (.error (.error e), after)) :
    Explains h kind payload ((Report.ofError e).within ("creating " ++ kind.name ++ " runner"))
  | missing {runner : Runner (StateM Host)} {after : Host} {e : Error}
      (made : (RunnerRegistry.withDefaults.create Host.providers kind payload).on h = (.ok runner, after))
      (reason : Missing payload (.ofName kind.name) e) :
    Explains h kind payload (.ofError (.jobFailed runner.job e.message))

/-- A job whose offline store is in memory never succeeds, of whatever kind it is and however its payload
is written: no runner can be made for it, or the job does not find what it works on. A worker that is
given such a payload exits with a failure. -/
theorem neverSucceedsInMemory (h : Host) {kind : JobKind} {payload : SerializedConfig}
    (inMemory : InMemory (.ofName kind.name) payload) :
    ∃ report, (runOn h kind payload).1 = .error report ∧ Explains h kind payload report ∧
      ∀ (files : String → Id FileContent) (o : Options) (source : Payload), .ofName o.jobKind = kind →
        Payload.ofOptions o.jobConfig o.jobConfigFile = .ok source → source.read files = .ok payload →
        (execute files h o).1.status = 1 := by
  have exits {report : Report} (failed : (runOn h kind payload).1 = .error report) :
      ∀ (files : String → Id FileContent) (o : Options) (source : Payload), .ofName o.jobKind = kind →
        Payload.ofOptions o.jobConfig o.jobConfigFile = .ok source → source.read files = .ok payload →
        (execute files h o).1.status = 1 := fun files o source named given read =>
    executeFails given read (named ▸ failed)
  have steps := runOnSteps h kind payload
  have whole := (createSpares kind payload h).2
  rcases made : (RunnerRegistry.withDefaults.create Host.providers kind payload).on h with
    ⟨(e | _) | runner, after⟩ <;> rw [made] at steps whole
  · have failed := congrArg Prod.fst steps
    exact ⟨_, failed, .unmade made, exits failed⟩
  · exact absurd rfl whole
  · obtain ⟨e, ended, reason⟩ := jobFails inMemory made
    have failed : (runOn h kind payload).1 = .error (.ofError (.jobFailed runner.job e.message)) := by
      simp only [steps, runner.waitOn, ended]
      rfl
    exact ⟨_, failed, .missing made reason, exits failed⟩

def clicksFields : Json :=
  .array [.string "MEMORY_OFFLINE", .array [], .string "LOCAL_ONLINE", .array [],
    .array [.string "clicks", .string "v1", .string "Feature"], .string "Int", .bool true, .ofInt64 7]

def clicksJob : MaterializeConfig :=
  ⟨.memoryOffline, .empty, .localOnline, .empty, ⟨"clicks", "v1", .feature⟩, .int, true, 7⟩

theorem clicksRead : Config.decode MaterializeConfig (.ofText clicksFields.text) = .ok clicksJob :=
  Config.decodeWritten rfl rfl

def noFiles (_ : String) : Id FileContent := .error .missing

theorem neverSucceedsInMemoryClicks :
    let payload := SerializedConfig.ofText clicksFields.text
    InMemory (.ofName "MATERIALIZE") payload ∧
      (runOn .isolated (.ofName "MATERIALIZE") payload).1 = .error (.ofError
        (.jobFailed "MATERIALIZE" "resource table 'feature/clicks.v1' not found")) ∧
      (execute noFiles .isolated
        ⟨"featureforge.yaml", "MATERIALIZE", some clicksFields.text, none⟩).1.status = 1 := by
  intro payload
  have inMemory : InMemory (.ofName (JobKind.ofName "MATERIALIZE").name) payload := by
    intro type given
    have named : offlineType? payload .materialize = some .memoryOffline := by
      rw [offlineType?, clicksRead]
      rfl
    cases named.symm.trans given
    rfl
  have registered : RunnerRegistry.withDefaults.find? "MATERIALIZE" =
      some (Materialize.factory (m := StateM Host) id) := rfl
  obtain ⟨body, after, made⟩ : ∃ body after,
      (RunnerRegistry.withDefaults.create Host.providers (.ofName "MATERIALIZE") payload).on .isolated =
        (.ok ⟨"MATERIALIZE", body⟩, after) := by
    simp only [RunnerRegistry.create, JobKind.nameOfName, registered, Materialize.factory, payload,
      clicksRead, Task.onBind]
    exact ⟨_, _, rfl⟩
  obtain ⟨report, failed, explained, exits⟩ := neverSucceedsInMemory .isolated inMemory
  refine ⟨inMemory, ?_, exits noFiles _ (.inline clicksFields.text) rfl rfl rfl⟩
  cases explained with
  | unmade refused => cases made.symm.trans refused
  | missing again reason =>
    cases made.symm.trans again
    have reason : Missing payload .materialize _ := reason
    cases reason with
    | feature read =>
      cases clicksRead.symm.trans read
      exact failed

end FeatureStore.Worker
