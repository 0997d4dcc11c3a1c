import FeatureStore.Dialog
import FeatureStore.Online.Redis.Command
import FeatureStore.Online.Redis.Config
import FeatureStore.Provider.Basic

/-!
An online store on a Redis server. One hash lists the tables with their types, and each table is a
hash from entities to written values. A request is a list of commands that are sent together; the
replies come back in the same order, and the first error among them is the error of the request.
-/
namespace FeatureStore.Redis

abbrev Talk := Dialog (List Command) (List Reply)

def concreteName : String := "featureforge_providers::redis_store::RedisOnlineStore"

def refused (context : String) (e : ErrorReply) : Error :=
  .storage ("Redis " ++ context ++ " error") e.message

def sendAll (context : String) (commands : List Command) : Task Talk (List Reply) := do
  let replies ← ExceptT.lift (Dialog.send commands)
  match replies.findSome? Reply.error? with
  | some e => Task.fail (refused context e)
  | none => return replies

def sendOne (context : String) (command : Command) (read : Reply → Except ErrorReply α) :
    Task Talk α := do
  let replies ← sendAll context [command]
  match read (replies.headD (.item .nil)) with
  | .ok a => return a
  | .error e => Task.fail (refused context e)

def encodeValue (v : FeatureValue) : String := v.toJson.text

def decodeValue (raw : String) : Except Error FeatureValue :=
  match Json.decodeBytes FeatureValue.decoder (Text.utf8 raw) with
  | .ok v => .ok v
  | .error fault => .error (.deserialization "online value" fault)

def setValue (key entity : String) (value : FeatureValue) : Task Talk Unit := do
  let _ ← sendAll "HSET" [.hset key entity (encodeValue value)]
  return ()

def getValue (key entity : String) : Task Talk FeatureValue := do
  match ← sendOne "HGET" (.hget key entity) Reply.toText with
  | some raw => Task.ofExcept (decodeValue raw)
  | none => Task.fail (.notFound "entity" entity)

/- Cuts a list into pieces of at most `size`, with `fuel` at least the length of the list. -/
def piecesFrom : Nat → Nat → List α → List (List α)
  | 0, _, _ => []
  | _ + 1, _, [] => []
  | fuel + 1, size, items => items.take size :: piecesFrom fuel size (items.drop size)

def pieces (size : Nat) (items : List α) : List (List α) := piecesFrom items.length size items

def writes (key : String) (records : List (String × FeatureValue)) : List Command :=
  records.map fun r => .hset key r.1 (encodeValue r.2)

def sendPieces (key : String) : List (List (String × FeatureValue)) → Task Talk Unit
  | [] => return ()
  | piece :: rest => do
    let _ ← sendAll "pipeline" (writes key piece)
    sendPieces key rest

def table (c : RedisConfig) (feature variant : String) : OnlineTable Talk :=
  let key := onlineTableKey c.scope feature variant
  { set := setValue key
    get := getValue key
    setBatch := fun records => sendPieces key (pieces (max c.batchSize.val 1) records) }

/-- Claims the name first, so that of two clients only one makes the table, and then clears what an
older handle may have left there. -/
def createTable (c : RedisConfig) (feature variant : String) (type : ValueType) :
    Task Talk (OnlineTable Talk) := do
  let name := onlineTableKey "" feature variant
  let created ← sendOne "HSETNX" (.hsetnx c.catalogKey name type.toJson.text) Reply.toBool
  if !created then Task.fail (.alreadyExists "online table" name)
  let _ ← sendAll "DEL" [.del (onlineTableKey c.scope feature variant)]
  return table c feature variant

def getTable (c : RedisConfig) (feature variant : String) : Task Talk (OnlineTable Talk) := do
  let name := onlineTableKey "" feature variant
  let found ← sendOne "HEXISTS" (.hexists c.catalogKey name) Reply.toBool
  if !found then Task.fail (.notFound "online table" name)
  return table c feature variant

def deleteTable (c : RedisConfig) (feature variant : String) : Task Talk Unit := do
  let name := onlineTableKey "" feature variant
  let replies ← sendAll "MULTI"
    [.multi, .hdel c.catalogKey name, .del (onlineTableKey c.scope feature variant), .exec]
  match (replies.getLastD (.item .nil)).toFirstInt with
  | .error e => Task.fail (refused "MULTI" e)
  | .ok removed => if removed = 0 then Task.fail (.notFound "online table" name)

def store (c : RedisConfig) : OnlineStore Talk where
  createTable := createTable c
  getTable := getTable c
  deleteTable := deleteTable c

def provider (c : RedisConfig) (config : SerializedConfig) : Provider Talk :=
  .ofOnline .redisOnline concreteName config (store c)

def greeting (c : RedisConfig) : List Command :=
  (if c.password.isEmpty then [] else [.auth c.password]) ++
    (if c.db = 0 then [] else [.select (toString c.db.toInt)])

end FeatureStore.Redis
