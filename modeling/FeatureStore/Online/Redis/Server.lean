import FeatureStore.Bindings
import FeatureStore.Online.Redis.Store

/-!
A Redis server: hashes by key, and for each connection the commands that wait for the end of a
transaction. Errors may be queued, each for the next time that a command arrives.
-/
namespace FeatureStore.Redis

abbrev Hash := Bindings String String

abbrev Keyspace := Bindings String Hash

namespace Keyspace

def hash (k : Keyspace) (key : String) : Hash := (k.find? key).getD .empty

def put (k : Keyspace) (key : String) (h : Hash) : Keyspace :=
  if h.entries.isEmpty then k.erase key else k.insert key h

def number (b : Bool) : Item := .int (if b then 1 else 0)

def run (k : Keyspace) : Command → Item × Keyspace
  | .auth _ | .select _ => (.status "OK", k)
  | .hsetnx key field value =>
    if (k.hash key).contains field then (number false, k)
    else (number true, k.put key ((k.hash key).insert field value))
  | .hexists key field => (number ((k.hash key).contains field), k)
  | .hset key field value =>
    (number !(k.hash key).contains field, k.put key ((k.hash key).insert field value))
  | .hget key field =>
    (match (k.hash key).find? field with
      | some value => .bulk value
      | none => .nil, k)
  | .hdel key field =>
    (number ((k.hash key).contains field), k.put key ((k.hash key).erase field))
  | .del key => (number (k.contains key), k.erase key)
  | .multi | .exec => (.status "OK", k)

def runAll (k : Keyspace) : List Command → List Item × Keyspace
  | [] => ([], k)
  | c :: rest =>
    let (item, k) := k.run c
    let (items, k) := runAll k rest
    (item :: items, k)

end Keyspace

structure Server where
  keyspace : Keyspace
  -- The commands since `MULTI`; none outside of a transaction.
  queued : Option (List Command)
  -- The errors that wait, each with the name of its command.
  errors : List (String × ErrorReply)
  received : List Command
  deriving Repr

namespace Server

def empty : Server := ⟨.empty, none, [], []⟩

instance : Inhabited Server := ⟨empty⟩

def execute (s : Server) (c : Command) : Reply × Server :=
  match s.queued, c with
  | some queued, .exec =>
    let (items, keyspace) := s.keyspace.runAll queued
    (.items items, { s with keyspace := keyspace, queued := none })
  | some queued, c => (.item (.status "QUEUED"), { s with queued := some (queued ++ [c]) })
  | none, .multi => (.item (.status "OK"), { s with queued := some [] })
  | none, c =>
    let (item, keyspace) := s.keyspace.run c
    (.item item, { s with keyspace := keyspace })

/-- A command that an error waits for is not run; a failing `EXEC` drops its transaction. -/
def receive (s : Server) (c : Command) : Reply × Server :=
  let s := { s with received := s.received ++ [c] }
  match s.errors with
  | (name, e) :: rest =>
    if name = c.name then
      let s := { s with errors := rest }
      (.item (.error e), if c = .exec then { s with queued := none } else s)
    else s.execute c
  | [] => s.execute c

def answer : List Command → StateM Server (List Reply)
  | [] => return []
  | c :: rest => do
    let s ← get
    let (reply, s) := s.receive c
    set s
    let more ← answer rest
    return reply :: more

end Server

def onServer {α : Type} (d : Talk α) : StateM Server α := d.run Server.answer

end FeatureStore.Redis
