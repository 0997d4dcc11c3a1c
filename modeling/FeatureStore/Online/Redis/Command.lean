/-!
The commands that a store sends to a Redis server, and the replies that it gets.
-/
namespace FeatureStore.Redis

inductive Command where
  | auth (password : String)
  | select (db : String)
  | hsetnx (key field value : String)
  | hexists (key field : String)
  | hset (key field value : String)
  | hget (key field : String)
  | hdel (key field : String)
  | del (key : String)
  | multi
  | exec
  deriving DecidableEq, Repr

namespace Command

def words : Command → List String
  | auth password => ["AUTH", password]
  | select db => ["SELECT", db]
  | hsetnx key field value => ["HSETNX", key, field, value]
  | hexists key field => ["HEXISTS", key, field]
  | hset key field value => ["HSET", key, field, value]
  | hget key field => ["HGET", key, field]
  | hdel key field => ["HDEL", key, field]
  | del key => ["DEL", key]
  | multi => ["MULTI"]
  | exec => ["EXEC"]

def name (c : Command) : String := c.words.headD ""

end Command

structure ErrorReply where
  code : String
  text : String
  deriving DecidableEq, Repr

namespace ErrorReply

def ofLine (line : String) : ErrorReply :=
  let cs := line.toList
  ⟨String.ofList (cs.takeWhile (· != ' ')), String.ofList ((cs.dropWhile (· != ' ')).drop 1)⟩

def message (e : ErrorReply) : String :=
  if e.code = "ERR" then "An error was signalled by the server - ResponseError: " ++ e.text
  else e.code ++ ": " ++ e.text

def incompatible : ErrorReply :=
  ⟨"ERR", "Response was of incompatible type - TypeError"⟩

end ErrorReply

inductive Item where
  | status (s : String)
  | int (n : Int)
  | bulk (s : String)
  | nil
  | error (e : ErrorReply)
  deriving DecidableEq, Repr

inductive Reply where
  | item (i : Item)
  | items (replies : List Item)
  deriving DecidableEq, Repr

namespace Reply

def error? : Reply → Option ErrorReply
  | item (.error e) => some e
  | items replies => replies.findSome? fun
    | .error e => some e
    | _ => none
  | _ => none

def toBool : Reply → Except ErrorReply Bool
  | item (.int n) => .ok (decide (n ≠ 0))
  | item .nil => .ok false
  | item (.bulk s) => if s = "1" then .ok true else if s = "0" then .ok false else .error .incompatible
  | item (.status s) => if s = "OK" ∨ s = "1" then .ok true
    else if s = "0" then .ok false else .error .incompatible
  | _ => .error .incompatible

def toText : Reply → Except ErrorReply (Option String)
  | item .nil => .ok none
  | item (.bulk s) => .ok (some s)
  | item (.status s) => .ok (some s)
  | item (.int n) => .ok (some (toString n))
  | _ => .error .incompatible

def toFirstInt : Reply → Except ErrorReply Int
  | items (.int n :: _) => .ok n
  | _ => .error .incompatible

end Reply
end FeatureStore.Redis
