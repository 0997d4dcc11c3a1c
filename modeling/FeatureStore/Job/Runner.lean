import FeatureStore.Job.Kind
import FeatureStore.Job.Watcher
import FeatureStore.Provider.Registry

/-!
Runners: jobs bound to their stores. A factory reads the configuration, checks it and resolves the
stores, so that a runner that exists can only fail while it runs.
-/
namespace FeatureStore

structure Runner (m : Type → Type) where
  job : String
  body : Task m Unit

namespace Runner
variable {m : Type → Type} [Monad m]

def outcome (r : Runner m) : m Outcome := do
  match ← r.body.run with
  | .ok () => return .success
  | .error (.error e) => return .failure e.message
  | .error .panic => return .panic

def run (r : Runner m) : m Watcher := do
  return (Watcher.started r.job).publish (← r.outcome)

def wait (r : Runner m) : m (Except Error Unit) := do
  return Watcher.result r.job (← r.outcome).status

end Runner

abbrev RunnerFactory (m : Type → Type) :=
  ProviderRegistry m → SerializedConfig → Task m (Runner m)

abbrev RunnerRegistry (m : Type → Type) := Registry (RunnerFactory m)

namespace RunnerRegistry
variable {m : Type → Type} [Monad m]

def title : String := "runner"

def create (r : RunnerRegistry m) (providers : ProviderRegistry m) (kind : JobKind)
    (config : SerializedConfig) : Task m (Runner m) :=
  match r.find? kind.name with
  | some factory => factory providers config
  | none => Task.fail (.unknownJobKind kind.name)

end RunnerRegistry
end FeatureStore
