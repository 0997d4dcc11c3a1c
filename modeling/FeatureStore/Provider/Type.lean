import FeatureStore.Json.Decode

/-!
The kinds of backend. A kind is known by its name: `other` with the name of a known backend is that
backend, and equality and every lookup go by the name.
-/
namespace FeatureStore

inductive ProviderType where
  | localOnline
  | redisOnline
  | cassandraOnline
  | dynamoOnline
  | memoryOffline
  | postgresOffline
  | snowflakeOffline
  | redshiftOffline
  | other (name : String)
  deriving Repr

namespace ProviderType

def known : List ProviderType :=
  [localOnline, redisOnline, cassandraOnline, dynamoOnline, memoryOffline, postgresOffline,
    snowflakeOffline, redshiftOffline]

def name : ProviderType → String
  | localOnline => "LOCAL_ONLINE"
  | redisOnline => "REDIS_ONLINE"
  | cassandraOnline => "CASSANDRA_ONLINE"
  | dynamoOnline => "DYNAMODB_ONLINE"
  | memoryOffline => "MEMORY_OFFLINE"
  | postgresOffline => "POSTGRES_OFFLINE"
  | snowflakeOffline => "SNOWFLAKE_OFFLINE"
  | redshiftOffline => "REDSHIFT_OFFLINE"
  | other name => name

instance : BEq ProviderType := ⟨fun a b => a.name == b.name⟩

def ofName (name : String) : ProviderType :=
  (known.find? fun t => t.name = name).getD (other name)

theorem nameOfName (s : String) : (ofName s).name = s := by
  unfold ofName
  cases found : known.find? fun t => t.name = s with
  | none => rfl
  | some t => simpa using List.find?_some found

def describe : ProviderType → String
  | localOnline => "LocalOnline"
  | redisOnline => "RedisOnline"
  | cassandraOnline => "CassandraOnline"
  | dynamoOnline => "DynamoDBOnline"
  | memoryOffline => "MemoryOffline"
  | postgresOffline => "PostgresOffline"
  | snowflakeOffline => "SnowflakeOffline"
  | redshiftOffline => "RedshiftOffline"
  | other name => "Other(" ++ Text.quoted name ++ ")"

def toJson (t : ProviderType) : Json := .string t.name

def decoder : Json.Decoder ProviderType := Json.Decoder.string.map ofName

end ProviderType

inductive Capability where
  | onlineStore
  | offlineStore
  deriving DecidableEq, Repr

def Capability.name : Capability → String
  | onlineStore => "OnlineStore"
  | offlineStore => "OfflineStore"

end FeatureStore
