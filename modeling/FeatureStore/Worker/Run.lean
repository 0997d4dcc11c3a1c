import FeatureStore.Host
import FeatureStore.Job.Registry
import FeatureStore.Worker.Arguments
import FeatureStore.Worker.Payload

/-!
A worker: it runs one job and tells by its exit status whether the job succeeded.
-/
namespace FeatureStore.Worker
variable {m : Type → Type} [Monad m]

def runJob (runners : RunnerRegistry m) (providers : ProviderRegistry m) (kind : JobKind)
    (config : SerializedConfig) : m (Except Report Unit) := do
  match ← (runners.create providers kind config).run with
  | .error (.error e) =>
    return .error ((Report.ofError e).within ("creating " ++ kind.name ++ " runner"))
  | .error .panic => return .error (.ofMessage (Error.message (.jobFailed kind.name "job panicked")))
  | .ok runner =>
    match ← runner.wait with
    | .ok () => return .ok ()
    | .error e => return .error (.ofError e)

def runOn (host : Host) (kind : JobKind) (config : SerializedConfig) : Except Report Unit × Host :=
  (runJob RunnerRegistry.withDefaults Host.providers kind config).run host

structure Exit where
  status : Nat
  message : String
  deriving DecidableEq, Repr

namespace Exit

def success : Exit := ⟨0, ""⟩

def failure (r : Report) : Exit := ⟨1, r.text⟩

def stopped : Stop → Exit
  | .help => ⟨0, usage⟩
  | .misuse => ⟨2, usage⟩

end Exit

def execute (files : String → m FileContent) (host : Host) (o : Options) : m (Exit × Host) := do
  match Settings.load (← files o.settings) with
  | .error r => return (.failure r, host)
  | .ok _ =>
    match Payload.ofOptions o.jobConfig o.jobConfigFile with
    | .error r => return (.failure r, host)
    | .ok payload =>
      match ← payload.read files with
      | .error r => return (.failure r, host)
      | .ok config =>
        match runOn host (.ofName o.jobKind) config with
        | (.ok (), host) => return (.success, host)
        | (.error r, host) => return (.failure r, host)

def command (files : String → m FileContent) (env : String → Option String) (host : Host)
    (args : List String) : m (Exit × Host) :=
  match Options.ofArguments env args with
  | .error stop => return (.stopped stop, host)
  | .ok o => execute files host o

end FeatureStore.Worker
