import FeatureStore.Host
import FeatureStore.Job.Registry
import FeatureStore.Proofs.Config
import FeatureStore.Proofs.Task

/-!
How runners are made: the payload is read and checked, and then the stores are resolved, one step after
another. The first step that fails decides, and nothing behind it is done. The providers are those of any
registry, in a world that notes whenever a factory builds a provider and whenever a store is used.
-/
namespace FeatureStore.Creation
variable {σ α β : Type}

inductive Event where
  | building (type : String)
  | operation
  deriving DecidableEq, Repr

abbrev Noting (σ : Type) := StateM (σ × List Event)

def note (e : Event) {α : Type} (x : StateM σ α) : Noting σ α := fun (s, seen) =>
  let (a, after) := x.run s
  (a, (after, seen ++ [e]))

def notedFactory (name : String) (factory : ProviderFactory (StateM σ)) : ProviderFactory (Noting σ) :=
  fun config => Provider.lift (note .operation) <$> Task.lift (note (.building name)) (factory config)

def noted (r : ProviderRegistry (StateM σ)) : ProviderRegistry (Noting σ) :=
  ⟨r.entries.map fun e => (e.1, notedFactory e.1 e.2)⟩

theorem notedFind (r : ProviderRegistry (StateM σ)) (name : String) :
    (noted r).find? name = (r.find? name).map (notedFactory name) := by
  simp only [Bindings.find?, noted, List.find?_map, Option.map_map]
  have same : ((fun e : String × ProviderFactory (Noting σ) => decide (e.1 = name)) ∘
      fun e : String × ProviderFactory (StateM σ) => (e.1, notedFactory e.1 e.2)) =
        fun e => decide (e.1 = name) := rfl
  rw [same]
  cases found : r.entries.find? fun e => decide (e.1 = name) with
  | none => rfl
  | some e =>
    obtain rfl : e.1 = name := by simpa using List.find?_some found
    rfl

structure Step (σ : Type) where
  builds : List String
  run : σ → Except Failure Unit × σ

namespace Step

def read (answer : Except Error α) : Step σ where
  builds := []
  run s := ((answer.map fun _ => ()).mapError .error, s)

def require (p : Prop) [Decidable p] (message : String) : Step σ where
  builds := []
  run s := (if p then .ok () else .error (.error (.invalidInput message)), s)

def resolve (r : ProviderRegistry (StateM σ)) (serves : Provider (StateM σ) → Except Error Unit)
    (type : ProviderType) (config : SerializedConfig) : Step σ where
  builds := if r.contains type.name then [type.name] else []
  run s :=
    match r.find? type.name with
    | none => (.error (.error (.unknownProviderType type.name)), s)
    | some factory =>
      match (factory config).on s with
      | (.ok p, after) => ((serves p).mapError .error, after)
      | (.error f, after) => (.error f, after)

def offline (r : ProviderRegistry (StateM σ)) : ProviderType → SerializedConfig → Step σ :=
  resolve r fun p => p.offline.map fun _ => ()

def online (r : ProviderRegistry (StateM σ)) : ProviderType → SerializedConfig → Step σ :=
  resolve r fun p => p.online.map fun _ => ()

end Step

def afterReading (γ : Type) [Config γ] (payload : SerializedConfig) (steps : γ → List (Step σ)) :
    List (Step σ) :=
  .read (Config.decode γ payload) ::
    match Config.decode γ payload with
    | .ok c => steps c
    | .error _ => []

def wrongType (id : ResourceId) (expected : String) : String :=
  id.text ++ " has resource type " ++ id.type.name ++ ", expected one of [" ++ expected ++ "]"

def steps (r : ProviderRegistry (StateM σ)) : JobKind → SerializedConfig → List (Step σ)
  | .createTransformation, payload => afterReading TransformationJob payload fun c =>
    [.offline r c.offlineType c.offlineConfig]
  | .createTrainingSet, payload => afterReading TrainingSetConfig payload fun c =>
    [.offline r c.offlineType c.offlineConfig]
  | .materialize, payload => afterReading MaterializeConfig payload fun c =>
    [.require (c.resource.type = .feature) (wrongType c.resource "Feature"),
      .require (0 < c.chunkSize) ("chunk size must be positive, got " ++
        FeatureValue.intText c.chunkSize.toInt),
      .offline r c.offlineType c.offlineConfig, .online r c.onlineType c.onlineConfig]
  | .copyToOnline, payload => afterReading CopyConfig payload fun c =>
    [.require (0 < c.chunk.size) ("chunk size must be positive, got " ++
        FeatureValue.intText c.chunk.size.toInt),
      .require (0 ≤ c.chunk.index) ("chunk index must not be negative, got " ++
        FeatureValue.intText c.chunk.index.toInt),
      .offline r c.offlineType c.offlineConfig, .online r c.onlineType c.onlineConfig]
  | .registerSource, payload => afterReading SourceConfig payload fun c =>
    [.require (c.resource.type = .primary) (wrongType c.resource "Primary"),
      .require (c.sourceTable ≠ "") ("no source table given for " ++ c.resource.text),
      .offline r c.offlineType c.offlineConfig]
  | .other _, _ => []

inductive Passes : List (Step σ) → σ → σ → Prop where
  | done (s : σ) : Passes [] s s
  | next {step : Step σ} {rest : List (Step σ)} {s mid after : σ} (here : step.run s = (.ok (), mid))
      (later : Passes rest mid after) : Passes (step :: rest) s after

structure Stops (steps : List (Step σ)) (s : σ) (before : List (Step σ)) (step : Step σ) (f : Failure)
    (after : σ) : Prop where
  among : ∃ behind, steps = before ++ step :: behind
  fails : ∃ mid, Passes before s mid ∧ step.run mid = (.error f, after)

def events (steps : List (Step σ)) : List Event := steps.flatMap fun step => step.builds.map .building

def attempt : List (Step σ) → σ → Except Failure Unit × σ × List Event
  | [], s => (.ok (), s, [])
  | step :: rest, s =>
    match step.run s with
    | (.ok (), mid) => ((attempt rest mid).1, (attempt rest mid).2.1,
        step.builds.map .building ++ (attempt rest mid).2.2)
    | (.error f, after) => (.error f, after, step.builds.map .building)

theorem attemptAppend (first second : List (Step σ)) (s : σ) :
    attempt (first ++ second) s =
      match attempt first s with
      | (.ok (), mid, seen) =>
        ((attempt second mid).1, (attempt second mid).2.1, seen ++ (attempt second mid).2.2)
      | (.error f, after, seen) => (.error f, after, seen) := by
  induction first generalizing s with
  | nil => rfl
  | cons step rest ih =>
    simp only [List.cons_append, attempt]
    obtain ⟨ended, mid⟩ := step.run s
    cases ended with
    | error f => rfl
    | ok u =>
      simp only [ih mid]
      rcases attempt rest mid with ⟨f | ⟨⟩, after, seen⟩ <;> simp

theorem attemptPassed {steps : List (Step σ)} {s after : σ} (passed : Passes steps s after) :
    attempt steps s = (.ok (), after, events steps) := by
  induction passed with
  | done s => rfl
  | next here _ ih => simp [attempt, here, ih, events]

theorem attemptStopped {steps before : List (Step σ)} {step : Step σ} {s after : σ} {f : Failure}
    (stops : Stops steps s before step f after) :
    attempt steps s = (.error f, after, events (before ++ [step])) := by
  obtain ⟨⟨behind, rfl⟩, mid, passed, failed⟩ := stops
  rw [attemptAppend, attemptPassed passed]
  simp [attempt, failed, events]

theorem passesOrStops (steps : List (Step σ)) (s : σ) :
    (∃ after, Passes steps s after) ∨ ∃ before step f after, Stops steps s before step f after := by
  induction steps generalizing s with
  | nil => exact .inl ⟨s, .done s⟩
  | cons step rest ih =>
    rcases ran : step.run s with ⟨f | ⟨⟩, mid⟩
    · exact .inr ⟨[], step, f, mid, ⟨rest, rfl⟩, s, .done s, ran⟩
    · rcases ih mid with ⟨after, passed⟩ | ⟨before, other, f, after, ⟨behind, rfl⟩, last, passed, failed⟩
      · exact .inl ⟨after, .next ran passed⟩
      · exact .inr ⟨step :: before, other, f, after, ⟨behind, rfl⟩, last, .next ran passed, failed⟩

section
variable {ω : Type} {embed : σ → List Event → ω}

/-- A task does steps, up to the first that fails, in a world that holds the state and what is noted. -/
def Performs (embed : σ → List Event → ω) (t : Task (StateM ω) α) (steps : List (Step σ)) : Prop :=
  ∀ s seen, (t.on (embed s seen)).1.map (fun _ => ()) = (attempt steps s).1 ∧
    (t.on (embed s seen)).2 = embed (attempt steps s).2.1 (seen ++ (attempt steps s).2.2)

structure Shows (embed : σ → List Event → ω) (q : ProviderRegistry (StateM ω))
    (r : ProviderRegistry (StateM σ)) where
  give : Provider (StateM σ) → Provider (StateM ω)
  offline (p : Provider (StateM σ)) : (give p).offline.map (fun _ => ()) = p.offline.map fun _ => ()
  online (p : Provider (StateM σ)) : (give p).online.map (fun _ => ()) = p.online.map fun _ => ()
  missing {name : String} (missing : r.find? name = none) : q.find? name = none
  builds {name : String} {factory : ProviderFactory (StateM σ)} (found : r.find? name = some factory) :
    ∃ other, q.find? name = some other ∧ ∀ config s seen, (other config).on (embed s seen) =
      (((factory config).on s).1.map give, embed ((factory config).on s).2 (seen ++ [.building name]))

namespace Performs
variable {first second : List (Step σ)}

theorem pure (a : α) : Performs embed (Pure.pure a : Task (StateM ω) α) [] := fun s seen => by
  simp [attempt, Except.map]

theorem bind {t : Task (StateM ω) α} {f : α → Task (StateM ω) β} (leads : Performs embed t first)
    (goes : ∀ a, Performs embed (f a) second) : Performs embed (t >>= f) (first ++ second) := by
  intro s seen
  obtain ⟨answer, state⟩ := leads s seen
  -- Both end alike: if the first steps fail nothing is left to do, and else the second task goes on from
  -- what they have left and noted.
  rw [Task.onBind, attemptAppend]
  rcases ended : t.on (embed s seen) with ⟨e | a, next⟩ <;>
    rcases tried : attempt first s with ⟨_ | ⟨⟩, mid, more⟩ <;>
    rw [ended, tried] at answer state <;> cases answer <;> cases state
  · exact ⟨rfl, rfl⟩
  · simpa using goes a mid (seen ++ more)

theorem one {t : Task (StateM ω) α} {step : Step σ}
    (same : ∀ s seen, (t.on (embed s seen)).1.map (fun _ => ()) = (step.run s).1 ∧
      (t.on (embed s seen)).2 = embed (step.run s).2 (seen ++ step.builds.map .building)) :
    Performs embed t [step] := by
  intro s seen
  obtain ⟨answer, state⟩ := same s seen
  rw [answer, state, attempt]
  rcases step.run s with ⟨f | ⟨⟩, after⟩ <;> simp [attempt]

theorem read (answer : Except Error α) :
    Performs embed (Task.ofExcept answer : Task (StateM ω) α) [.read answer] := by
  refine one fun s seen => ?_
  cases answer <;> simp [Step.read, Task.ofExcept, Except.map, Task.mapErrorOk, Task.mapErrorError]

theorem require {p : Prop} [Decidable p] {message : String} {check : Except Error Unit}
    (same : check = if p then .ok () else .error (.invalidInput message)) :
    Performs embed (Task.ofExcept check : Task (StateM ω) Unit) [.require p message] := by
  subst same
  refine one fun s seen => ?_
  by_cases holds : p <;> simp [Step.require, holds, Task.ofExcept, Except.map]

theorem resolve {γ : Type} {q : ProviderRegistry (StateM ω)} {r : ProviderRegistry (StateM σ)}
    (shown : Shows embed q r) {serves : Provider (StateM σ) → Except Error Unit}
    {narrow : Provider (StateM ω) → Except Error γ}
    (same : ∀ p, (narrow (shown.give p)).map (fun _ => ()) = serves p)
    (type : ProviderType) (config : SerializedConfig) :
    Performs embed (do Task.ofExcept (narrow (← q.get type config))) [.resolve r serves type config] := by
  refine one fun s seen => ?_
  rcases Option.eq_none_or_eq_some (r.find? type.name) with missing | ⟨factory, found⟩
  · simp [ProviderRegistry.get, shown.missing missing, Step.resolve, Bindings.contains, missing,
      Task.onBind, Except.map]
  · obtain ⟨other, bound, built⟩ := shown.builds found
    simp only [ProviderRegistry.get, bound, Step.resolve, Bindings.contains, found, Task.onBind, built]
    rcases (factory config).on s with ⟨f | p, after⟩
    · simp [Except.map]
    · have narrowed := same p
      rcases ended : narrow (shown.give p) with e | store <;> rw [ended] at narrowed <;>
        simp [← narrowed, ended, Except.map, Task.mapErrorOk, Task.mapErrorError]

theorem afterReading {γ : Type} [Config γ] {payload : SerializedConfig} {more : γ → List (Step σ)}
    {f : γ → Task (StateM ω) α} (goes : ∀ c, Performs embed (f c) (more c)) :
    Performs embed (do f (← Task.ofExcept (Config.decode γ payload)))
      (Creation.afterReading γ payload more) := by
  have decoded : Performs embed (Task.ofExcept (Config.decode γ payload)) _ := read _
  rw [Creation.afterReading]
  cases answer : Config.decode γ payload with
  | error e =>
    exact one fun s seen => ⟨rfl, by simp [Step.read]; rfl⟩
  | ok c =>
    rw [answer] at decoded
    exact decoded.bind (f := fun _ => f c) fun _ => goes c

end Performs

namespace Shows
variable {q : ProviderRegistry (StateM ω)} {r : ProviderRegistry (StateM σ)}

theorem offlineStore (shown : Shows embed q r) (type : ProviderType) (config : SerializedConfig) :
    Performs embed (q.offlineStore type config) [.offline r type config] :=
  Performs.resolve shown shown.offline type config

theorem onlineStore (shown : Shows embed q r) (type : ProviderType) (config : SerializedConfig) :
    Performs embed (q.onlineStore type config) [.online r type config] :=
  Performs.resolve shown shown.online type config

def itself (r : ProviderRegistry (StateM σ)) : Shows (fun s _ => s) r r where
  give := id
  offline _ := rfl
  online _ := rfl
  missing := id
  builds {_ factory} found := ⟨factory, found, fun config s _ => by
    rcases ended : (factory config).on s with ⟨f | p, after⟩ <;> rfl⟩

def noting (r : ProviderRegistry (StateM σ)) : Shows Prod.mk (noted r) r where
  give := Provider.lift (note .operation)
  offline p := by rcases offers : p.offline <;> simp [Provider.lift, offers, Except.map]
  online p := by rcases offers : p.online <;> simp [Provider.lift, offers, Except.map]
  missing missing := by simp [notedFind, missing]
  builds {name factory} found := ⟨notedFactory name factory, by simp [notedFind, found],
    fun _ _ _ => Task.onMap _ _ _⟩

end Shows

end

section
variable {ω : Type} {embed : σ → List Event → ω}

theorem featureChecked (id : ResourceId) : id.checkType [.feature] =
    if id.type = .feature then .ok () else .error (.invalidInput (wrongType id "Feature")) := by
  simp [ResourceId.checkType, wrongType, ResourceType.title]

theorem primaryChecked (id : ResourceId) : id.checkType [.primary] =
    if id.type = .primary then .ok () else .error (.invalidInput (wrongType id "Primary")) := by
  simp [ResourceId.checkType, wrongType, ResourceType.title]

theorem sizeChecked (size : Int64) : Chunk.checkSize size =
    if 0 < size then .ok ()
    else .error (.invalidInput ("chunk size must be positive, got " ++ FeatureValue.intText size.toInt)) := by
  by_cases positive : 0 < size
  · simp [Chunk.checkSize, positive, Int64.not_le.mpr positive]
  · simp [Chunk.checkSize, positive, Int64.not_lt.mp positive]

theorem ofExceptThen (check : Except Error α) (more : α → Except Error β) :
    (Task.ofExcept (check >>= more) : Task (StateM ω) β) =
      Task.ofExcept check >>= fun a => Task.ofExcept (more a) := by
  cases check <;> rfl

theorem chunkPerforms (c : Chunk) : Performs embed (Task.ofExcept c.check : Task (StateM ω) Unit)
    [.require (0 < c.size) ("chunk size must be positive, got " ++ FeatureValue.intText c.size.toInt),
      .require (0 ≤ c.index)
        ("chunk index must not be negative, got " ++ FeatureValue.intText c.index.toInt)] := by
  rw [Chunk.check, ofExceptThen]
  refine (Performs.require (sizeChecked c.size)).bind fun _ => Performs.require ?_
  by_cases negative : c.index < 0
  · simp [negative, Int64.not_le.mpr negative]
  · simp [negative, Int64.not_lt.mp negative]

theorem sourcePerforms (c : SourceConfig) : Performs embed (Task.ofExcept c.check : Task (StateM ω) Unit)
    [.require (c.resource.type = .primary) (wrongType c.resource "Primary"),
      .require (c.sourceTable ≠ "") ("no source table given for " ++ c.resource.text)] := by
  rw [SourceConfig.check, ofExceptThen]
  refine (Performs.require (primaryChecked c.resource)).bind fun _ => Performs.require ?_
  by_cases empty : c.sourceTable = "" <;> simp [empty]

theorem factoryFound (embed : σ → List Event → ω) (kind : JobKind) (builtIn : kind ∈ JobKind.known) :
    ∃ factory : RunnerFactory (StateM ω), RunnerRegistry.withDefaults.find? kind.name = some factory ∧
      ∀ {q r} (_ : Shows embed q r) (payload : SerializedConfig),
        Performs embed (factory q payload) (steps r kind payload) := by
  simp only [JobKind.known, List.mem_cons, List.not_mem_nil, or_false] at builtIn
  rcases builtIn with rfl | rfl | rfl | rfl | rfl
  · exact ⟨TransformationJob.factory, rfl, fun shown _ => .afterReading fun c =>
      (shown.offlineStore _ _).bind fun _ => .pure _⟩
  · exact ⟨TrainingSetConfig.factory, rfl, fun shown _ => .afterReading fun c =>
      (shown.offlineStore _ _).bind fun _ => .pure _⟩
  · exact ⟨Materialize.factory id, rfl, fun shown _ => .afterReading fun c =>
      (Performs.require (featureChecked c.resource)).bind fun _ =>
        (Performs.require (sizeChecked c.chunkSize)).bind fun _ =>
          (shown.offlineStore _ _).bind fun _ => (shown.onlineStore _ _).bind fun _ => .pure _⟩
  · exact ⟨Copy.factory, rfl, fun shown _ => .afterReading fun c => (chunkPerforms c.chunk).bind fun _ =>
      (shown.offlineStore _ _).bind fun _ => (shown.onlineStore _ _).bind fun _ => .pure _⟩
  · exact ⟨SourceConfig.factory, rfl, fun shown _ => .afterReading fun c => (sourcePerforms c).bind fun _ =>
      (shown.offlineStore _ _).bind fun _ => .pure _⟩

theorem createPerforms (embed : σ → List Event → ω) {kind key : JobKind} (builtIn : kind ∈ JobKind.known)
    (same : key.name = kind.name) {q : ProviderRegistry (StateM ω)} {r : ProviderRegistry (StateM σ)}
    (shown : Shows embed q r) (payload : SerializedConfig) :
    Performs embed (RunnerRegistry.withDefaults.create q key payload) (steps r kind payload) := by
  obtain ⟨factory, found, performs⟩ := factoryFound embed kind builtIn
  rw [RunnerRegistry.create, same, found]
  exact performs shown payload

end

theorem mappedOk {answer : Except Failure α} (same : answer.map (fun _ => ()) = .ok ()) :
    ∃ a, answer = .ok a := by
  cases answer with
  | error f => cases same
  | ok a => exact ⟨a, rfl⟩

theorem mappedError {answer : Except Failure α} {f : Failure}
    (same : answer.map (fun _ => ()) = .error f) : answer = .error f := by
  cases answer with
  | error e => cases same; rfl
  | ok a => cases same

theorem noOperation (steps : List (Step σ)) : .operation ∉ events steps := by
  simp [events]

/-- A runner is made exactly when every step passes, and otherwise the first that fails gives the error.
All that happens until then is that the factories of these steps build their providers. -/
theorem stopsAtFirstStep {kind key : JobKind} (builtIn : kind ∈ JobKind.known) (same : key.name = kind.name)
    (r : ProviderRegistry (StateM σ)) (payload : SerializedConfig) (s : σ) :
    let made := (RunnerRegistry.withDefaults.create r key payload).on s
    let seen := (RunnerRegistry.withDefaults.create (noted r) key payload).on (s, [])
    ((∃ runner, made.1 = .ok runner) ↔ ∃ after, Passes (steps r kind payload) s after) ∧
    (∀ after, Passes (steps r kind payload) s after →
      made.2 = after ∧ seen.2 = (after, events (steps r kind payload))) ∧
    (∀ before step f after, Stops (steps r kind payload) s before step f after →
      made = (.error f, after) ∧ seen = (.error f, (after, events (before ++ [step])))) ∧
    ((∃ after, Passes (steps r kind payload) s after) ∨
      ∃ before step f after, Stops (steps r kind payload) s before step f after) ∧
    .operation ∉ seen.2.2 := by
  intro made seen
  obtain ⟨answer, state⟩ := createPerforms _ builtIn same (Shows.itself r) payload s []
  obtain ⟨noting, noted⟩ := createPerforms _ builtIn same (Shows.noting r) payload s []
  have passed {after : σ} (passes : Passes (steps r kind payload) s after) :
      (∃ runner, made.1 = .ok runner) ∧ made.2 = after ∧
        seen.2 = (after, events (steps r kind payload)) := by
    rw [attemptPassed passes] at answer state noted
    exact ⟨mappedOk answer, state, noted⟩
  have stopped {before : List (Step σ)} {step : Step σ} {f : Failure} {after : σ}
      (stops : Stops (steps r kind payload) s before step f after) :
      made = (.error f, after) ∧ seen = (.error f, (after, events (before ++ [step]))) := by
    rw [attemptStopped stops] at answer state noting noted
    exact ⟨Prod.ext (mappedError answer) state, Prod.ext (mappedError noting) noted⟩
  have decided := passesOrStops (steps r kind payload) s
  refine ⟨⟨fun ⟨runner, ended⟩ => decided.resolve_right ?_, fun ⟨after, passes⟩ => (passed passes).1⟩,
    fun after passes => (passed passes).2, fun _ _ _ _ stops => stopped stops, decided, ?_⟩
  · rintro ⟨before, step, f, after, stops⟩
    rw [(stopped stops).1] at ended
    cases ended
  · rcases decided with ⟨after, passes⟩ | ⟨before, step, f, after, stops⟩
    · rw [(passed passes).2.2]
      exact noOperation _
    · rw [(stopped stops).2]
      exact noOperation _

theorem stopsAtFirstStepServing :
    let c : MaterializeConfig :=
      ⟨.memoryOffline, .empty, .memoryOffline, .empty, ⟨"clicks", "v1", .feature⟩, .int, false, 10⟩
    let h := Host.start none none
    JobKind.materialize ∈ JobKind.known ∧ (JobKind.other "MATERIALIZE").name = JobKind.materialize.name ∧
      ∃ e after, (RunnerRegistry.withDefaults.create Host.providers (.other "MATERIALIZE")
        (Config.encode c)).on h = (.error (.error e), after) ∧
      (RunnerRegistry.withDefaults.create (noted Host.providers) (.other "MATERIALIZE")
        (Config.encode c)).on (h, []) =
          (.error (.error e), (after, [.building "MEMORY_OFFLINE", .building "MEMORY_OFFLINE"])) := by
  intro c h
  have builtIn : JobKind.materialize ∈ JobKind.known := by simp [JobKind.known]
  have read : Config.decode MaterializeConfig (Config.encode c) = .ok c := c.readBack
  have same : (JobKind.other "MATERIALIZE").name = JobKind.materialize.name := rfl
  have bound : Bindings.contains Host.providers "MEMORY_OFFLINE" = true := rfl
  have listed : steps Host.providers .materialize (Config.encode c) =
      [.read (.ok c), .require (c.resource.type = .feature) (wrongType c.resource "Feature"),
        .require (0 < c.chunkSize) ("chunk size must be positive, got " ++
          FeatureValue.intText c.chunkSize.toInt),
        .offline Host.providers c.offlineType c.offlineConfig] ++
        [.online Host.providers c.onlineType c.onlineConfig] := by
    simp only [steps, afterReading, read, List.cons_append, List.nil_append]
  have stops : Stops (steps Host.providers .materialize (Config.encode c)) h _ _ _ _ :=
    ⟨⟨[], listed⟩, _, .next rfl (.next rfl (.next rfl (.next rfl (.done _)))), rfl⟩
  have law := stopsAtFirstStep builtIn same Host.providers (Config.encode c) h
  obtain ⟨made, seen⟩ := law.2.2.1 _ _ _ _ stops
  refine ⟨builtIn, same, _, _, made, seen.trans ?_⟩
  simp [events, Step.read, Step.require, Step.offline, Step.online, Step.resolve, bound, c,
    ProviderType.name]

end FeatureStore.Creation
