import FeatureStore.Config
import FeatureStore.Url

/-!
How a PostgreSQL server is reached.
-/
namespace FeatureStore
open Json (Decoder)

structure PostgresConfig where
  connection : String
  poolSize : WordSize
  deriving DecidableEq, Repr

namespace PostgresConfig

def ofUrl (connection : String) : PostgresConfig := ⟨connection, ⟨10, by decide⟩⟩

def standard : PostgresConfig := ofUrl "postgresql://localhost/featureforge"

def withPoolSize (c : PostgresConfig) (n : WordSize) : PostgresConfig := { c with poolSize := n }

def toJson (c : PostgresConfig) : Json :=
  .object [("connection_string", .string c.connection),
    ("pool_size", c.poolSize.toJson)]

def decoder : Decoder PostgresConfig :=
  Decoder.record "PostgresConfig"
    (.field (Decoder.required "connection_string" Decoder.string) <|
      .field (Decoder.defaulted "pool_size" WordSize.decoder ⟨10, by decide⟩) .done)
    fun (connection, size, _) => ⟨connection, size⟩

instance : Config PostgresConfig := ⟨"postgres", toJson, decoder⟩

def databaseOf (path : String) : Option String :=
  match path.toList with
  | '/' :: c :: rest => some (String.ofList (c :: rest))
  | _ => none

structure Startup where
  user : Option String
  password : Option String
  database : String
  deriving DecidableEq, Repr

def startup (c : PostgresConfig) : Except Error Startup :=
  match Url.parse c.connection with
  | .error fault => .error (.invalidInput ("Invalid connection string: " ++ fault.message))
  | .ok u =>
    match databaseOf u.path with
    | none =>
      .error (.storage "Pool builder error" "configuration property \"dbname\" not found")
    | some database =>
      .ok ⟨if u.username.isEmpty then none else some u.username, u.password, database⟩

end PostgresConfig
end FeatureStore
