import FeatureStore.Offline.Memory
import FeatureStore.Offline.Postgres.Server
import FeatureStore.Online.Local
import FeatureStore.Online.Redis.Server
import FeatureStore.Provider.Registry

/-!
A host: the stores in its memory, the servers that it talks to, and the factories of the backends that
come with the library. Every provider in memory has a store of its own; all providers on a server share
what the server holds.
-/
namespace FeatureStore

structure Host where
  memories : List Memory
  locals : List LocalStore
  redis : Redis.Server
  redisFault : Option String
  postgres : Postgres.Server
  postgresFault : Option String
  pools : Nat

namespace Host

def start (redisFault postgresFault : Option String) : Host :=
  ⟨[], [], .empty, redisFault, .empty, postgresFault, 0⟩

instance : Inhabited Host := ⟨start none none⟩

def isolated : Host :=
  start (some "Network is unreachable (os error 101)") (some "error connecting to server")

def onMemory (place : Nat) {α : Type} (a : StateM Memory α) : StateM Host α := fun h =>
  let (value, memory) := a.run (h.memories.getD place default)
  (value, { h with memories := h.memories.set place memory })

def onLocal (place : Nat) {α : Type} (a : StateM LocalStore α) : StateM Host α := fun h =>
  let (value, s) := a.run (h.locals.getD place default)
  (value, { h with locals := h.locals.set place s })

def onRedis {α : Type} (d : Redis.Talk α) : StateM Host α := fun h =>
  let (value, server) := (Redis.onServer d).run h.redis
  (value, { h with redis := server })

def onPostgres (pool : Nat) (who : PostgresConfig.Startup) {α : Type} (d : Postgres.Talk α) :
    StateM Host α := fun h =>
  let action :=
    match h.postgresFault with
    | some reason => Postgres.onNothing reason d
    | none => Postgres.onServer pool who d
  let (value, server) := action.run h.postgres
  (value, { h with postgres := server })

abbrev Factory := ProviderFactory (StateM Host)

def memoryFactory : Factory := fun config => do
  let h ← getThe Host
  set { h with memories := h.memories ++ [Memory.empty] }
  return (Memory.provider config).lift (onMemory h.memories.length)

def localFactory (dims : Option Nat) : Factory := fun config => do
  let h ← getThe Host
  set { h with locals := h.locals ++ [LocalStore.empty] }
  return (LocalStore.provider dims config).lift (onLocal h.locals.length)

def redisFactory : Factory := fun config => do
  let c ← Task.ofExcept (Config.decode RedisConfig config)
  Task.ofExcept c.check
  match (← getThe Host).redisFault with
  | some reason => Task.fail (.storage "Redis connection manager error" reason)
  | none =>
    let greet := ExceptT.run (Redis.sendAll "connection manager" (Redis.greeting c))
    let _ ← ExceptT.mk (onRedis greet)
    return (Redis.provider c config).lift onRedis

/- Connects when the first statement is sent. -/
def postgresFactory : Factory := fun config => do
  let c ← Task.ofExcept (Config.decode PostgresConfig config)
  let who ← Task.ofExcept c.startup
  let h ← getThe Host
  set { h with pools := h.pools + 1 }
  return (Postgres.provider config).lift (onPostgres h.pools who)

def backends : List (String × Factory) :=
  [(ProviderType.localOnline.name, localFactory none),
    (ProviderType.memoryOffline.name, memoryFactory),
    (ProviderType.redisOnline.name, redisFactory),
    (ProviderType.postgresOffline.name, postgresFactory)]

def registerBackends (r : ProviderRegistry (StateM Host)) :
    Except Error Unit × ProviderRegistry (StateM Host) :=
  Registry.registerAll ProviderRegistry.title backends r

def providers : ProviderRegistry (StateM Host) := (registerBackends .empty).2

end Host
end FeatureStore
