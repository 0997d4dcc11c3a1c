import FeatureStore.Bindings
import FeatureStore.Provider.Basic

/-!
Registries: factories by name. The first binding of a name stays until the registry is cleared.
-/
namespace FeatureStore

abbrev Registry (φ : Type) := Bindings String φ

namespace Registry
variable {φ : Type}

def register (title : String) (r : Registry φ) (name : String) (factory : φ) :
    Except Error (Registry φ) :=
  if r.contains name then .error (.duplicateRegistration title name)
  else .ok (r.insert name factory)

/-- Binds names one after another and stops at the first that is taken; what was bound before it
stays bound. -/
def registerAll (title : String) : List (String × φ) → Registry φ → Except Error Unit × Registry φ
  | [], r => (.ok (), r)
  | (name, factory) :: rest, r =>
    match register title r name factory with
    | .ok r => registerAll title rest r
    | .error e => (.error e, r)

def names (r : Registry φ) : List String := r.keys.mergeSort fun a b => decide (a ≤ b)

end Registry

abbrev ProviderFactory (m : Type → Type) := SerializedConfig → Task m (Provider m)

abbrev ProviderRegistry (m : Type → Type) := Registry (ProviderFactory m)

namespace ProviderRegistry
variable {m : Type → Type} [Monad m]

def title : String := "provider"

def get (r : ProviderRegistry m) (type : ProviderType) (config : SerializedConfig) :
    Task m (Provider m) :=
  match r.find? type.name with
  | some factory => factory config
  | none => Task.fail (.unknownProviderType type.name)

def offlineStore (r : ProviderRegistry m) (type : ProviderType) (config : SerializedConfig) :
    Task m (OfflineStore m) := do
  Task.ofExcept (← r.get type config).offline

def onlineStore (r : ProviderRegistry m) (type : ProviderType) (config : SerializedConfig) :
    Task m (OnlineStore m) := do
  Task.ofExcept (← r.get type config).online

end ProviderRegistry
end FeatureStore
