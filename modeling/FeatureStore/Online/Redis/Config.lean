import FeatureStore.Config
import FeatureStore.Url

/-!
How a Redis server is reached, and where a store keeps its keys.
-/
namespace FeatureStore
open Json (Decoder)

structure RedisConfig where
  addr : String
  password : String
  db : Int64
  scope : String
  batchSize : WordSize
  deriving DecidableEq, Repr

namespace RedisConfig

def ofAddr (addr : String) : RedisConfig := ⟨addr, "", 0, "", ⟨1000, by decide⟩⟩

def standard : RedisConfig := ofAddr "localhost:6379"

def toJson (c : RedisConfig) : Json :=
  .object [("addr", .string c.addr), ("password", .string c.password), ("db", .ofInt64 c.db),
    ("prefix", .string c.scope), ("write_batch_size", c.batchSize.toJson)]

def decoder : Decoder RedisConfig :=
  Decoder.record "RedisConfig"
    (.field (Decoder.required "addr" Decoder.string) <|
      .field (Decoder.defaulted "password" Decoder.string "") <|
      .field (Decoder.defaulted "db" Decoder.int64 0) <|
      .field (Decoder.defaulted "prefix" Decoder.string "") <|
      .field (Decoder.defaulted "write_batch_size" WordSize.decoder ⟨1000, by decide⟩) .done)
    fun (addr, password, db, scope, size, _) => ⟨addr, password, db, scope, size⟩

instance : Config RedisConfig := ⟨"redis", toJson, decoder⟩

def url (c : RedisConfig) : String :=
  let db := toString c.db.toInt
  if c.password.isEmpty then "redis://" ++ c.addr ++ "/" ++ db
  else "redis://:" ++ c.password ++ "@" ++ c.addr ++ "/" ++ db

def catalogKey (c : RedisConfig) : String := c.scope ++ "__tables__"

def integer? (s : List Char) : Option Int64 :=
  let (negative, digits) :=
    match s with
    | '-' :: digits => (true, digits)
    | '+' :: digits => (false, digits)
    | digits => (false, digits)
  match digits, Text.number? 10 digits with
  | _ :: _, some n =>
    if negative && n ≤ 9223372036854775808 then some (.ofInt (-n))
    else if !negative && n < 9223372036854775808 then some (.ofInt n)
    else none
  | _, _ => none

def databaseOf (path : String) : Option Int64 :=
  let bare := ((path.toList.dropWhile (· == '/')).reverse.dropWhile (· == '/')).reverse
  if bare.isEmpty then some 0 else integer? bare

def isGarbled (written : String) : Bool := (Percent.decodeText? written.toList).isNone

def urlFault? (c : RedisConfig) : Option String :=
  match Url.parse c.url with
  | .error _ => some "Redis URL did not parse"
  | .ok u =>
    if u.host.isNone then some "Missing hostname"
    else if (databaseOf u.path).isNone then some "Invalid database number"
    else if isGarbled u.username then some "Username is not valid UTF-8 string"
    else if u.password.any isGarbled then some "Password is not valid UTF-8 string"
    else none

def check (c : RedisConfig) : Except Error Unit :=
  match c.urlFault? with
  | none => .ok ()
  | some fault => .error (.storage "Redis connection error" (fault ++ "- InvalidClientConfig"))

end RedisConfig
end FeatureStore
