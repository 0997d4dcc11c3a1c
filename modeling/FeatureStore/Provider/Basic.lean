import FeatureStore.Config
import FeatureStore.Offline.Store
import FeatureStore.Online.Store

/-!
Providers: connected backends, with what each of them can serve as.
-/
namespace FeatureStore

structure Provider (m : Type → Type) where
  type : ProviderType
  config : SerializedConfig
  online : Except Error (OnlineStore m)
  offline : Except Error (OfflineStore m)

namespace Provider

def lacks (type : ProviderType) (concrete : String) (capability : Capability) : Except Error α :=
  .error (.unsupportedCapability type capability concrete)

def ofOnline (type : ProviderType) (concrete : String) (config : SerializedConfig)
    (store : OnlineStore m) : Provider m where
  type := type
  config := config
  online := .ok store
  offline := lacks type concrete .offlineStore

def ofOffline (type : ProviderType) (concrete : String) (config : SerializedConfig)
    (store : OfflineStore m) : Provider m where
  type := type
  config := config
  online := lacks type concrete .onlineStore
  offline := .ok store

def bare (type : ProviderType) (concrete : String) (config : SerializedConfig) : Provider m where
  type := type
  config := config
  online := lacks type concrete .onlineStore
  offline := lacks type concrete .offlineStore

def lift {n : Type → Type} [Monad n] (f : ∀ {α}, m α → n α) (p : Provider m) : Provider n where
  type := p.type
  config := p.config
  online := p.online.map (OnlineStore.lift f)
  offline := p.offline.map (OfflineStore.lift f)

end Provider
end FeatureStore
