import FeatureStore.Online.Redis.Server
import FeatureStore.Proofs.Bindings
import FeatureStore.Proofs.Task
import FeatureStore.Proofs.Value

/-!
What each operation of the store on a Redis server answers, and the hashes that it leaves there, when
the server is idle: no transaction is open and no error waits.
-/
namespace FeatureStore.Redis
variable {α β : Type}

namespace Keyspace

theorem hashPut (k : Keyspace) (key : String) (h : Hash) (other : String) :
    (k.put key h).hash other = if key = other then h else k.hash other := by
  unfold put
  split
  · rename_i empty
    have none : h = .empty := congrArg Bindings.mk (List.isEmpty_iff.mp empty)
    simp only [hash, Bindings.findErase]
    split <;> simp [none]
  · simp only [hash, Bindings.findInsert]
    split <;> rfl

theorem hashErase (k : Keyspace) (key other : String) :
    (hash (k.erase key) other) = if key = other then .empty else k.hash other := by
  simp only [hash, Bindings.findErase]
  split <;> rfl

def relist (k : Keyspace) (catalog : String) (list : Hash) (table : String) : Keyspace :=
  (k.put catalog list).erase table

theorem relistHash {catalog table : String} (k : Keyspace) (list : Hash) (other : String) :
    (k.relist catalog list table).hash other =
      if table = other then .empty else if catalog = other then list else k.hash other := by
  rw [relist, hashErase, hashPut]

theorem runNoError (k : Keyspace) (c : Command) : Reply.error? (.item (k.run c).1) = none := by
  cases c with
  | hsetnx key field value =>
    simp only [run]
    split <;> rfl
  | hget key field =>
    simp only [run]
    cases (k.hash key).find? field <;> rfl
  | _ => rfl

theorem itemsNoError (k : Keyspace) (cs : List Command) :
    Reply.error? (.items (k.runAll cs).1) = none := by
  induction cs generalizing k with
  | nil => rfl
  | cons c cs ih =>
    have first := runNoError k c
    have more := ih (k.run c).2
    simp only [runAll, Reply.error?] at first more ⊢
    cases item : (k.run c).1 with
    | error e => simp [item] at first
    | _ => exact more

theorem runAllNoError (k : Keyspace) (cs : List Command) :
    ((k.runAll cs).1.map Reply.item).findSome? Reply.error? = none := by
  induction cs generalizing k with
  | nil => rfl
  | cons c cs ih => simp only [runAll, List.map_cons, List.findSome?_cons, runNoError, ih]

theorem runAllAppend (k : Keyspace) (first rest : List Command) :
    (k.runAll (first ++ rest)).2 = ((k.runAll first).2.runAll rest).2 := by
  induction first generalizing k with
  | nil => rfl
  | cons c cs ih => exact ih (k.run c).2

end Keyspace

def idle (k : Keyspace) (received : List Command) : Server := ⟨k, none, [], received⟩

def Plain (c : Command) : Prop := c ≠ .multi ∧ c ≠ .exec

theorem answerCons (c : Command) (cs : List Command) (s : Server) :
    (Server.answer (c :: cs)).run s =
      ((s.receive c).1 :: ((Server.answer cs).run (s.receive c).2).1,
        ((Server.answer cs).run (s.receive c).2).2) := rfl

theorem receivePlain {c : Command} (plain : Plain c) (k : Keyspace) (received : List Command) :
    (idle k received).receive c = (.item (k.run c).1, idle (k.run c).2 (received ++ [c])) := by
  obtain ⟨noMulti, noExec⟩ := plain
  cases c with
  | multi => exact absurd rfl noMulti
  | exec => exact absurd rfl noExec
  | _ => rfl

theorem answerPlain {cs : List Command} (plain : ∀ c ∈ cs, Plain c) (k : Keyspace)
    (received : List Command) :
    (Server.answer cs).run (idle k received) =
      ((k.runAll cs).1.map .item, idle (k.runAll cs).2 (received ++ cs)) := by
  induction cs generalizing k received with
  | nil => simp [Server.answer, Keyspace.runAll]; rfl
  | cons c cs ih =>
    have first := receivePlain (plain c List.mem_cons_self) k received
    have more := ih (fun d mem => plain d (List.mem_cons_of_mem c mem)) (k.run c).2 (received ++ [c])
    simp only [answerCons, first, more, Keyspace.runAll, List.map_cons, List.append_assoc,
      List.singleton_append]

theorem answerQueued {cs : List Command} (plain : ∀ c ∈ cs, Plain c) (k : Keyspace)
    (queued received : List Command) :
    (Server.answer (cs ++ [.exec])).run ⟨k, some queued, [], received⟩ =
      (cs.map (fun _ => Reply.item (.status "QUEUED")) ++ [.items (k.runAll (queued ++ cs)).1],
        idle (k.runAll (queued ++ cs)).2 (received ++ (cs ++ [.exec]))) := by
  induction cs generalizing queued received with
  | nil => simp only [List.append_nil]; rfl
  | cons c cs ih =>
    have more := ih (fun d mem => plain d (List.mem_cons_of_mem c mem)) (queued ++ [c]) (received ++ [c])
    have noExec : c ≠ .exec := (plain c List.mem_cons_self).2
    have first : (⟨k, some queued, [], received⟩ : Server).receive c =
        (.item (.status "QUEUED"), ⟨k, some (queued ++ [c]), [], received ++ [c]⟩) := by
      cases c with
      | exec => exact absurd rfl noExec
      | _ => rfl
    simp only [List.cons_append, answerCons, first, more, List.map_cons, List.append_assoc,
      List.nil_append]

theorem onServerBind (d : Talk α) (f : α → Talk β) (s : Server) :
    (onServer (d >>= f)).run s = (onServer (f ((onServer d).run s).1)).run ((onServer d).run s).2 := by
  induction d generalizing s with
  | done value => rfl
  | ask r next ih => exact ih ((Server.answer r).run s).1 ((Server.answer r).run s).2

theorem sendAllAsks (context : String) (commands : List Command) (f : List Reply → Task Talk α) :
    (sendAll context commands >>= f).run =
      .ask commands fun replies =>
        match replies.findSome? Reply.error? with
        | some e => .done (.error (.error (refused context e)))
        | none => (f replies).run := by
  have each (failed : Option ErrorReply) (replies : List Reply) :
      ((match failed with
        | some e => Task.fail (refused context e)
        | none => return replies : Task Talk (List Reply)) >>= f).run =
      match failed with
      | some e => .done (.error (.error (refused context e)))
      | none => (f replies).run := by
    cases failed <;> rfl
  exact congrArg (Dialog.ask commands) (funext fun replies => each _ replies)

/- Against an idle server with some hashes, the program has an answer and leaves the server idle with
other hashes, whatever was received before. -/
def Runs (d : Talk α) (k : Keyspace) (answer : α) (after : Keyspace) : Prop :=
  ∀ received, ∃ later, (onServer d).run (idle k received) = (answer, idle after later)

def Serves (t : Task Talk α) (k : Keyspace) (result : Except Failure α) (after : Keyspace) : Prop :=
  Runs t.run k result after

theorem Runs.bind {k middle after : Keyspace} {d : Talk α} {f : α → Talk β} {a : α} {b : β}
    (first : Runs d k a middle) (next : Runs (f a) middle b after) : Runs (d >>= f) k b after := by
  intro received
  obtain ⟨between, ran⟩ := first received
  obtain ⟨later, rest⟩ := next between
  exact ⟨later, by rw [onServerBind, ran, rest]⟩

theorem Runs.done (a : α) (k : Keyspace) : Runs (pure a) k a k := fun received => ⟨received, rfl⟩

namespace Serves
variable {k middle after : Keyspace}

theorem done (a : α) : Serves (pure a) k (.ok a) k := fun received => ⟨received, rfl⟩

theorem failed (e : Error) : Serves (Task.fail e : Task Talk α) k (.error (.error e)) k :=
  fun received => ⟨received, rfl⟩

theorem except (x : Except Error α) : Serves (Task.ofExcept x) k (x.mapError .error) k := by
  cases x with
  | ok a => exact done a
  | error e => exact failed e

theorem bind {t : Task Talk α} {f : α → Task Talk β} {a : α} {result : Except Failure β}
    (first : Serves t k (.ok a) middle) (next : Serves (f a) middle result after) :
    Serves (t >>= f) k result after :=
  Runs.bind (f := ExceptT.bindCont f) first next

theorem sent (context : String) {cs : List Command} {replies : List Reply}
    (answered : ∀ received,
      (Server.answer cs).run (idle k received) = (replies, idle after (received ++ cs)))
    (fine : replies.findSome? Reply.error? = none) :
    Serves (Redis.sendAll context cs) k (.ok replies) after := by
  have asked : Serves (ExceptT.lift (Dialog.send cs)) k (.ok replies) after := by
    intro received
    refine ⟨received ++ cs, ?_⟩
    have step : (onServer (ExceptT.lift (Dialog.send cs) : Task Talk (List Reply)).run).run
        (idle k received) = (.ok ((Server.answer cs).run (idle k received)).1,
          ((Server.answer cs).run (idle k received)).2) := rfl
    rw [step, answered received]
  refine asked.bind ?_
  rw [fine]
  exact done replies

theorem sendAll (context : String) (cs : List Command) (plain : ∀ c ∈ cs, Plain c) :
    Serves (Redis.sendAll context cs) k (.ok ((k.runAll cs).1.map .item)) (k.runAll cs).2 :=
  sent context (answerPlain plain k) (k.runAllNoError cs)

theorem transaction (context : String) (cs : List Command) (plain : ∀ c ∈ cs, Plain c) :
    Serves (Redis.sendAll context (.multi :: (cs ++ [.exec]))) k
      (.ok (.item (.status "OK") ::
        (cs.map (fun _ => .item (.status "QUEUED")) ++ [.items (k.runAll cs).1])))
      (k.runAll cs).2 := by
  refine sent context (fun received => ?_) ?_
  · have opened : (idle k received).receive .multi =
        (.item (.status "OK"), ⟨k, some [], [], received ++ [.multi]⟩) := rfl
    simp only [answerCons, opened, answerQueued plain, List.nil_append, List.append_assoc,
      List.singleton_append]
  · refine List.findSome?_eq_none_iff.mpr fun reply mem => ?_
    rcases List.mem_cons.mp mem with rfl | mem
    · rfl
    rcases List.mem_append.mp mem with queued | last
    · obtain ⟨c, -, rfl⟩ := List.mem_map.mp queued
      rfl
    · rw [List.mem_singleton.mp last]
      exact k.itemsNoError cs

theorem returned {t : Task Talk α} {result : Except Failure α} (serves : Serves t k result after)
    (f : Except Failure α → β) : Runs (do return f (← t.run)) k (f result) after :=
  Runs.bind serves (.done _ _)

theorem sendOne (context : String) {c : Command} (plain : Plain c)
    {read : Reply → Except ErrorReply α} {a : α} (readable : read (.item (k.run c).1) = .ok a) :
    Serves (sendOne context c read) k (.ok a) (k.run c).2 := by
  refine (sendAll context [c] (by simpa using plain)).bind ?_
  simp only [Keyspace.runAll, List.map_cons, List.headD_cons, readable]
  exact done a

end Serves

section
variable {c : RedisConfig}

theorem scopedKey (c : RedisConfig) (feature variant : String) :
    onlineTableKey c.scope feature variant = c.scope ++ onlineTableKey "" feature variant := by
  simp [onlineTableKey, String.append_assoc]

theorem keysApart {a b : String} (different : a ≠ b) : c.scope ++ a ≠ c.scope ++ b :=
  fun same => different ((String.append_right_inj c.scope).mp same)

theorem tableNotCatalog {name : String} (unreserved : name ≠ "__tables__") :
    c.scope ++ name ≠ c.catalogKey :=
  keysApart unreserved

theorem relistCatalog {name : String} (unreserved : name ≠ "__tables__") (k : Keyspace) (list : Hash) :
    (k.relist c.catalogKey list (c.scope ++ name)).hash c.catalogKey = list := by
  rw [Keyspace.relistHash, if_neg (tableNotCatalog unreserved), if_pos rfl]

theorem relistOther {name other : String} (elsewhere : name ≠ other) (unreserved : other ≠ "__tables__")
    (k : Keyspace) (list : Hash) :
    (k.relist c.catalogKey list (c.scope ++ name)).hash (c.scope ++ other) =
      k.hash (c.scope ++ other) := by
  rw [Keyspace.relistHash, if_neg (keysApart elsewhere), if_neg (tableNotCatalog unreserved).symm]

end

section
variable (c : RedisConfig) (k : Keyspace) (feature variant : String)

theorem createTableServes (type : ValueType)
    (free : (k.hash c.catalogKey).contains (onlineTableKey "" feature variant) = false) :
    Serves (createTable c feature variant type) k (.ok (table c feature variant))
      (k.relist c.catalogKey
        ((k.hash c.catalogKey).insert (onlineTableKey "" feature variant) type.toJson.text)
        (onlineTableKey c.scope feature variant)) := by
  have claimed : k.run (.hsetnx c.catalogKey (onlineTableKey "" feature variant) type.toJson.text) =
      (Keyspace.number true, k.put c.catalogKey
        ((k.hash c.catalogKey).insert (onlineTableKey "" feature variant) type.toJson.text)) := by
    simp only [Keyspace.run, free]
    rfl
  refine (Serves.sendOne "HSETNX" (by simp [Plain]) (a := true) (by rw [claimed]; rfl)).bind ?_
  rw [claimed]
  exact (Serves.sendAll "DEL" _ (by simp [Plain])).bind (.done _)

theorem createTableTaken (type : ValueType)
    (held : (k.hash c.catalogKey).contains (onlineTableKey "" feature variant) = true) :
    Serves (createTable c feature variant type) k
      (.error (.error (.alreadyExists "online table" (onlineTableKey "" feature variant)))) k := by
  have refused : k.run (.hsetnx c.catalogKey (onlineTableKey "" feature variant) type.toJson.text) =
      (Keyspace.number false, k) := by
    simp only [Keyspace.run, held, if_true]
  refine (Serves.sendOne "HSETNX" (by simp [Plain]) (a := false) (by rw [refused]; rfl)).bind ?_
  rw [refused]
  exact .failed _

theorem getTableServes {held : Bool}
    (known : (k.hash c.catalogKey).contains (onlineTableKey "" feature variant) = held) :
    Serves (getTable c feature variant) k
      (if held then .ok (table c feature variant)
        else .error (.error (.notFound "online table" (onlineTableKey "" feature variant)))) k := by
  have asked : k.run (.hexists c.catalogKey (onlineTableKey "" feature variant)) =
      (Keyspace.number held, k) := by
    rw [Keyspace.run, known]
  cases held with
  | true =>
    refine (Serves.sendOne "HEXISTS" (by simp [Plain]) (a := true) (by rw [asked]; rfl)).bind ?_
    rw [asked]
    exact .done _
  | false =>
    refine (Serves.sendOne "HEXISTS" (by simp [Plain]) (a := false) (by rw [asked]; rfl)).bind ?_
    rw [asked]
    exact .failed _

theorem deleteTableServes {held : Bool}
    (known : (k.hash c.catalogKey).contains (onlineTableKey "" feature variant) = held) :
    Serves (deleteTable c feature variant) k
      (if held then .ok ()
        else .error (.error (.notFound "online table" (onlineTableKey "" feature variant))))
      (k.relist c.catalogKey ((k.hash c.catalogKey).erase (onlineTableKey "" feature variant))
        (onlineTableKey c.scope feature variant)) := by
  have dropped := Serves.transaction (k := k) "MULTI"
    [.hdel c.catalogKey (onlineTableKey "" feature variant),
      .del (onlineTableKey c.scope feature variant)] (by simp [Plain])
  refine dropped.bind ?_
  simp only [Keyspace.runAll, Keyspace.run, known]
  cases held with
  | true => exact .done _
  | false => exact .failed _

end

theorem setServes (c : RedisConfig) (feature variant entity : String) (value : FeatureValue)
    (k : Keyspace) :
    Serves ((table c feature variant).set entity value) k (.ok ())
      (k.put (onlineTableKey c.scope feature variant)
        ((k.hash (onlineTableKey c.scope feature variant)).insert entity (encodeValue value))) :=
  (Serves.sendAll "HSET" _ (by simp [Plain])).bind (.done _)

def fieldValue (entity : String) : Option String → Except Failure FeatureValue
  | some raw => (decodeValue raw).mapError .error
  | none => .error (.error (.notFound "entity" entity))

theorem getServes (c : RedisConfig) (feature variant entity : String) (k : Keyspace) :
    Serves ((table c feature variant).get entity) k
      (fieldValue entity ((k.hash (onlineTableKey c.scope feature variant)).find? entity)) k := by
  cases found : (k.hash (onlineTableKey c.scope feature variant)).find? entity with
  | some raw =>
    have asked : k.run (.hget (onlineTableKey c.scope feature variant) entity) = (.bulk raw, k) := by
      simp only [Keyspace.run, found]
    refine (Serves.sendOne "HGET" (by simp [Plain]) (a := some raw) (by rw [asked]; rfl)).bind ?_
    rw [asked]
    exact .except _
  | none =>
    have asked : k.run (.hget (onlineTableKey c.scope feature variant) entity) = (.nil, k) := by
      simp only [Keyspace.run, found]
    refine (Serves.sendOne "HGET" (by simp [Plain]) (a := none) (by rw [asked]; rfl)).bind ?_
    rw [asked]
    exact .failed _

theorem piecesWhole {size : Nat} (positive : 0 < size) (items : List α) {fuel : Nat}
    (enough : items.length ≤ fuel) : (piecesFrom fuel size items).flatten = items := by
  induction fuel generalizing items with
  | zero =>
    have none := List.eq_nil_of_length_eq_zero (Nat.le_zero.mp enough)
    simp [none, piecesFrom]
  | succ fuel ih =>
    cases items with
    | nil => rfl
    | cons x xs =>
      have shorter : ((x :: xs).drop size).length ≤ fuel := by
        simp only [List.length_drop, List.length_cons] at enough ⊢
        omega
      rw [piecesFrom, List.flatten_cons, ih _ shorter, List.take_append_drop]
      simp

theorem writesPlain (key : String) (records : List (String × FeatureValue)) :
    ∀ c ∈ writes key records, Plain c := by
  intro c mem
  obtain ⟨r, -, rfl⟩ := List.mem_map.mp mem
  simp [Plain]

theorem sendPiecesServes (key : String) (ps : List (List (String × FeatureValue))) (k : Keyspace) :
    Serves (sendPieces key ps) k (.ok ()) (k.runAll (writes key ps.flatten)).2 := by
  induction ps generalizing k with
  | nil => exact .done _
  | cons piece ps ih =>
    have apart : writes key (piece :: ps).flatten = writes key piece ++ writes key ps.flatten := by
      simp [writes]
    rw [apart, k.runAllAppend]
    exact (Serves.sendAll "pipeline" _ (writesPlain key piece)).bind (ih _)

theorem setBatchServes (c : RedisConfig) (feature variant : String)
    (records : List (String × FeatureValue)) (k : Keyspace) :
    Serves ((table c feature variant).setBatch records) k (.ok ())
      (k.runAll (writes (onlineTableKey c.scope feature variant) records)).2 := by
  have whole := piecesWhole (show 0 < max c.batchSize.val 1 by omega) records (Nat.le_refl _)
  have sent := sendPiecesServes (onlineTableKey c.scope feature variant)
    (pieces (max c.batchSize.val 1) records) k
  rw [pieces, whole] at sent
  exact sent

theorem writesLeave (key : String) (records : List (String × FeatureValue)) (k : Keyspace)
    (other : String) :
    (k.runAll (writes key records)).2.hash other =
      if key = other then (k.hash key).insertAll (records.map fun r => (r.1, encodeValue r.2))
      else k.hash other := by
  induction records generalizing k with
  | nil => by_cases same : key = other <;> simp [writes, Keyspace.runAll, Bindings.insertAll, same]
  | cons r rest ih =>
    have more := ih (k.put key ((k.hash key).insert r.1 (encodeValue r.2)))
    simp only [Keyspace.hashPut, if_true] at more
    refine more.trans ?_
    by_cases same : key = other
    · rw [if_pos same, if_pos same]
      rfl
    · rw [if_neg same, if_neg same, if_neg same]

end FeatureStore.Redis
