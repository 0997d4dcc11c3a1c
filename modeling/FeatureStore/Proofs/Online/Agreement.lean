import FeatureStore.Proofs.Online.Client
import FeatureStore.Proofs.Online.Local
import FeatureStore.Proofs.Online.Redis

/-!
The store in memory and the store on a server answer every client alike. A table in memory and a hash
of the server hold the same values as long as the list of tables names them; a handle leads to the same
table on both sides until the table is deleted.
-/
namespace FeatureStore
open Redis (encodeValue Keyspace Hash keysApart tableNotCatalog relistCatalog relistOther scopedKey)

structure Written (entries : Bindings String FeatureValue) (h : Hash) : Prop where
  same (entity : String) : h.find? entity = (entries.find? entity).map encodeValue
  storable {entity : String} {v : FeatureValue} : entries.find? entity = some v → v.Storable = true

namespace Written
variable {entries : Bindings String FeatureValue} {h : Hash}

theorem empty : Written .empty .empty := ⟨fun _ => rfl, fun found => by simp at found⟩

theorem insert (written : Written entries h) (entity : String) {v : FeatureValue}
    (storable : v.Storable = true) :
    Written (entries.insert entity v) (h.insert entity (encodeValue v)) := by
  refine ⟨fun e => ?_, fun {e w} found => ?_⟩
  · rw [Bindings.findInsert, Bindings.findInsert, written.same]
    split <;> rfl
  · rw [Bindings.findInsert] at found
    split at found
    · cases found
      exact storable
    · exact written.storable found

theorem insertAll (written : Written entries h) (records : List (String × FeatureValue))
    (storable : ∀ r ∈ records, r.2.Storable = true) :
    Written (entries.insertAll records) (h.insertAll (records.map fun r => (r.1, encodeValue r.2))) := by
  induction records generalizing entries h with
  | nil => exact written
  | cons r rest ih =>
    exact ih (written.insert r.1 (storable r List.mem_cons_self)) fun x mem =>
      storable x (List.mem_cons_of_mem r mem)

theorem read (written : Written entries h) (entity : String) :
    Redis.fieldValue entity (h.find? entity) =
      match entries.find? entity with
      | some v => .ok v
      | none => .error (.error (.notFound "entity" entity)) := by
  rw [written.same]
  cases found : entries.find? entity with
  | none => rfl
  | some v =>
    have decoded := Redis.decodeEncoded (written.storable found)
    simp only [Option.map_some, Redis.fieldValue, decoded, Task.mapErrorOk]

end Written

variable {c : RedisConfig}

/- The list of tables has the names of the store in memory, no two names share a table, and behind
each name both sides hold the same values. -/
structure Mirrors (c : RedisConfig) (s : LocalStore) (k : Keyspace) : Prop where
  listed (name : String) : (k.hash c.catalogKey).contains name = s.names.contains name
  unreserved : s.names.find? "__tables__" = none
  apart {a b : String} {place : Nat} :
    s.names.find? a = some place → s.names.find? b = some place → a = b
  kept {name : String} {place : Nat} : s.names.find? name = some place →
    ∃ entries, s.tables[place]? = some (.values entries) ∧ Written entries (k.hash (c.scope ++ name))

namespace Mirrors
variable {s : LocalStore} {k : Keyspace}

theorem start : Mirrors c .empty .empty where
  listed _ := rfl
  unreserved := rfl
  apart := by simp [LocalStore.empty]
  kept := by simp [LocalStore.empty]

theorem nameUnreserved (mirrors : Mirrors c s k) {name : String} {place : Nat}
    (named : s.names.find? name = some place) : name ≠ "__tables__" := by
  rintro rfl
  rw [mirrors.unreserved] at named
  cases named

theorem created (mirrors : Mirrors c s k) {name : String} (unreserved : name ≠ "__tables__")
    (text : String) :
    Mirrors c
      { s with
        tables := s.tables ++ [.values .empty]
        names := s.names.insert name s.tables.length }
      (k.relist c.catalogKey ((k.hash c.catalogKey).insert name text) (c.scope ++ name)) := by
  have inside {other : String} {place : Nat} (named : s.names.find? other = some place) :
      place < s.tables.length := by
    obtain ⟨entries, there, -⟩ := mirrors.kept named
    exact (List.getElem?_eq_some_iff.mp there).1
  refine ⟨fun other => ?_, ?_, fun {a b place} first second => ?_, fun {other place} named => ?_⟩
  · have old := mirrors.listed other
    simp only [Bindings.contains] at old ⊢
    rw [relistCatalog unreserved, Bindings.findInsert, Bindings.findInsert]
    split
    · rfl
    · exact old
  · simpa [Bindings.findInsert, unreserved] using mirrors.unreserved
  -- The new table lies behind all others, so that no other name leads there.
  · simp only [Bindings.findInsert] at first second
    split at first <;> split at second
    · rename_i here there
      exact here.symm.trans there
    · cases first
      exact absurd (inside second) (Nat.lt_irrefl _)
    · cases second
      exact absurd (inside first) (Nat.lt_irrefl _)
    · exact mirrors.apart first second
  · simp only [Bindings.findInsert] at named
    split at named
    · rename_i here
      subst here
      cases named
      refine ⟨.empty, by simp, ?_⟩
      rw [Keyspace.relistHash, if_pos rfl]
      exact .empty
    · rename_i elsewhere
      obtain ⟨entries, there, written⟩ := mirrors.kept named
      refine ⟨entries, ?_, ?_⟩
      · simp only [List.getElem?_append_left (inside named), there]
      · rw [relistOther elsewhere (mirrors.nameUnreserved named)]
        exact written

theorem deleted (mirrors : Mirrors c s k) {name : String} (unreserved : name ≠ "__tables__") :
    Mirrors c { s with names := s.names.erase name }
      (k.relist c.catalogKey ((k.hash c.catalogKey).erase name) (c.scope ++ name)) := by
  refine ⟨fun other => ?_, ?_, fun {a b place} first second => ?_, fun {other place} named => ?_⟩
  · have old := mirrors.listed other
    simp only [Bindings.contains] at old ⊢
    rw [relistCatalog unreserved, Bindings.findErase, Bindings.findErase]
    split
    · rfl
    · exact old
  · simpa [Bindings.findErase, unreserved] using mirrors.unreserved
  · simp only [Bindings.findErase] at first second
    split at first <;> split at second <;> try contradiction
    exact mirrors.apart first second
  · simp only [Bindings.findErase] at named
    split at named <;> try contradiction
    rename_i elsewhere
    obtain ⟨entries, there, written⟩ := mirrors.kept named
    refine ⟨entries, there, ?_⟩
    rw [relistOther elsewhere (mirrors.nameUnreserved named)]
    exact written

theorem rewritten (mirrors : Mirrors c s k) {name : String} {place : Nat}
    (named : s.names.find? name = some place) {change : LocalTable → LocalTable}
    {after : Keyspace}
    (here : ∀ entries, s.tables[place]? = some (.values entries) →
      Written entries (k.hash (c.scope ++ name)) →
      ∃ more, change (.values entries) = .values more ∧ Written more (after.hash (c.scope ++ name)))
    (elsewhere : ∀ other, c.scope ++ name ≠ other → after.hash other = k.hash other) :
    Mirrors c { s with tables := s.tables.modify place change } after := by
  have unreserved := mirrors.nameUnreserved named
  refine ⟨fun other => ?_, mirrors.unreserved, mirrors.apart, fun {other place'} named' => ?_⟩
  · rw [elsewhere c.catalogKey (keysApart unreserved)]
    exact mirrors.listed other
  · obtain ⟨entries, there, written⟩ := mirrors.kept named'
    by_cases same : name = other
    · subst same
      cases named.symm.trans named'
      obtain ⟨more, changed, kept⟩ := here entries there written
      exact ⟨more, by simp [there, changed], kept⟩
    · -- No two names share a table, so that the one behind the other name stays.
      have places : place ≠ place' := fun equal => same (mirrors.apart named (equal ▸ named'))
      rw [elsewhere (c.scope ++ other) (keysApart same)]
      exact ⟨entries, by simp [places, there], written⟩

theorem tableNamed (mirrors : Mirrors c s k) {name : String} {place : Nat}
    (named : s.names.find? name = some place) :
    ∃ entries, s.tableNamed? name = some (place, .values entries) ∧
      Written entries (k.hash (c.scope ++ name)) := by
  obtain ⟨entries, there, written⟩ := mirrors.kept named
  exact ⟨entries, LocalStore.tableNamedIff.mpr ⟨named, there⟩, written⟩

end Mirrors

namespace OnlineCall
open Redis (Talk)

def Undeleted (past : List OnlineCall) (given : Nat) (name : String) : Prop :=
  ∀ later call, given < later → past[later]? = some call → call.deletes? ≠ some name

def Live (past : List OnlineCall) (handle : Nat) : Prop :=
  ∀ giver name, past[handle]? = some giver → giver.opens? = some name → Undeleted past handle name

/- What a call gave on the two sides: no handle, or handles of one table, which its name still leads
to unless it was deleted since. -/
inductive Paired (c : RedisConfig) (past : List OnlineCall) (s : LocalStore) (given : Nat) :
    Option (OnlineTable (StateM LocalStore)) → Option (OnlineTable Talk) → Prop where
  | neither : Paired c past s given none none
  | tables {giver : OnlineCall} {feature variant : String} {place : Nat}
    (gave : past[given]? = some giver)
    (opens : giver.opens? = some (onlineTableKey "" feature variant))
    (reached : Undeleted past given (onlineTableKey "" feature variant) →
      s.names.find? (onlineTableKey "" feature variant) = some place) :
    Paired c past s given (some (LocalStore.valueTable place)) (some (Redis.table c feature variant))

structure Agree (c : RedisConfig) (past : List OnlineCall)
    (held : List (Option (OnlineTable (StateM LocalStore)))) (heldThere : List (Option (OnlineTable Talk)))
    (s : LocalStore) (k : Keyspace) : Prop where
  mirrors : Mirrors c s k
  count : held.length = past.length
  countThere : heldThere.length = past.length
  paired (given : Nat) : Paired c past s given held[given]?.join heldThere[given]?.join

variable {past : List OnlineCall} {s : LocalStore} {k : Keyspace}

theorem Agree.start : Agree c [] [] [] .empty .empty := ⟨.start, rfl, rfl, fun _ => .neither⟩

theorem Undeleted.before {call : OnlineCall} {given : Nat} {name : String}
    (undeleted : Undeleted (past ++ [call]) given name) (inside : given < past.length) :
    Undeleted past given name ∧ call.deletes? ≠ some name := by
  refine ⟨fun later other after found => ?_, undeleted past.length call inside (by simp)⟩
  have place := (List.getElem?_eq_some_iff.mp found).1
  exact undeleted later other after (by rw [List.getElem?_append_left place, found])

theorem Paired.next {call : OnlineCall} {after : LocalStore} {given : Nat}
    {left : Option (OnlineTable (StateM LocalStore))} {right : Option (OnlineTable Talk)}
    (paired : Paired c past s given left right)
    (names : ∀ name place, s.names.find? name = some place → call.deletes? ≠ some name →
      after.names.find? name = some place) :
    Paired c (past ++ [call]) after given left right := by
  cases paired with
  | neither => exact .neither
  | tables gave opens reached =>
    have inside := (List.getElem?_eq_some_iff.mp gave).1
    refine .tables (by rw [List.getElem?_append_left inside, gave]) opens fun undeleted => ?_
    obtain ⟨before, spared⟩ := undeleted.before inside
    exact names _ _ (reached before) spared

theorem Agree.next {held : List (Option (OnlineTable (StateM LocalStore)))}
    {heldThere : List (Option (OnlineTable Talk))} (agree : Agree c past held heldThere s k)
    {call : OnlineCall} {after : LocalStore} {afterThere : Keyspace}
    {left : Option (OnlineTable (StateM LocalStore))} {right : Option (OnlineTable Talk)}
    (mirrors : Mirrors c after afterThere)
    (names : ∀ name place, s.names.find? name = some place → call.deletes? ≠ some name →
      after.names.find? name = some place)
    (given : Paired c (past ++ [call]) after past.length left right) :
    Agree c (past ++ [call]) (held ++ [left]) (heldThere ++ [right]) after afterThere := by
  refine ⟨mirrors, by simp [agree.count], by simp [agree.countThere], fun number => ?_⟩
  -- The handles of earlier calls stay, this call has its own, and there are none beyond it.
  rcases Nat.lt_trichotomy number past.length with old | here | beyond
  · have before := (agree.paired number).next names
    rwa [List.getElem?_append_left (by rwa [agree.count]),
      List.getElem?_append_left (by rwa [agree.countThere])]
  · subst here
    have onLeft : (held ++ [left])[past.length]? = some left := by simp [← agree.count]
    have onRight : (heldThere ++ [right])[past.length]? = some right := by simp [← agree.countThere]
    rw [onLeft, onRight]
    exact given
  · have onLeft : (held ++ [left])[number]? = none := by
      rw [List.getElem?_eq_none_iff, List.length_append, agree.count]
      exact beyond
    have onRight : (heldThere ++ [right])[number]? = none := by
      rw [List.getElem?_eq_none_iff, List.length_append, agree.countThere]
      exact beyond
    rw [onLeft, onRight]
    exact .neither

def Matched (c : RedisConfig) (past : List OnlineCall)
    (held : List (Option (OnlineTable (StateM LocalStore)))) (heldThere : List (Option (OnlineTable Talk)))
    (s : LocalStore) (k : Keyspace) (call : OnlineCall) : Prop :=
  ∃ answer left right after afterThere,
    (perform (LocalStore.store none) held call).run s = ((answer, left), after) ∧
    Redis.Runs (perform (Redis.store c) heldThere call) k (answer, right) afterThere ∧
    Agree c (past ++ [call]) (held ++ [left]) (heldThere ++ [right]) after afterThere

theorem performedHere {t : Task (StateM LocalStore) α} {result : Except Failure α} {after : LocalStore}
    (f : Except Failure α → β) (ran : t.on s = (result, after)) :
    (do return f (← t.run) : StateM LocalStore β).run s = (f result, after) := by
  rw [Task.onAnswer, ran]

section
variable {held : List (Option (OnlineTable (StateM LocalStore)))}
  {heldThere : List (Option (OnlineTable Talk))}

theorem createTableMatched (agree : Agree c past held heldThere s k) (feature variant : String)
    (type : ValueType) (unreserved : onlineTableKey "" feature variant ≠ "__tables__") :
    Matched c past held heldThere s k (.createTable feature variant type) := by
  have listed := agree.mirrors.listed (onlineTableKey "" feature variant)
  have ran := LocalStore.createTableOn none feature variant type s
  cases taken : s.names.contains (onlineTableKey "" feature variant) with
  | true =>
    rw [taken, if_pos rfl] at ran
    rw [taken] at listed
    have serves := Redis.createTableTaken c k feature variant type listed
    refine ⟨_, none, none, _, _, performedHere opened ran, serves.returned opened, ?_⟩
    exact agree.next agree.mirrors (fun _ _ named _ => named) .neither
  | false =>
    rw [taken, if_neg (by decide)] at ran
    rw [taken] at listed
    have serves := Redis.createTableServes c k feature variant type listed
    have plain : LocalStore.newTable none type = .values .empty := by simp [LocalStore.newTable]
    rw [plain] at ran
    rw [scopedKey] at serves
    refine ⟨_, _, _, _, _, performedHere opened ran, serves.returned opened, ?_⟩
    refine agree.next (agree.mirrors.created unreserved type.toJson.text) (fun name place named _ => ?_) ?_
    · have other : onlineTableKey "" feature variant ≠ name := by
        rintro rfl
        simp [Bindings.contains, named] at taken
      rw [Bindings.findInsert, if_neg other, named]
    · refine .tables List.getElem?_concat_length rfl fun _ => ?_
      rw [Bindings.findInsert, if_pos rfl]

theorem getTableMatched (agree : Agree c past held heldThere s k) (feature variant : String) :
    Matched c past held heldThere s k (.getTable feature variant) := by
  have listed := agree.mirrors.listed (onlineTableKey "" feature variant)
  have serves := Redis.getTableServes c k feature variant rfl
  have ran := LocalStore.getTableOn none feature variant s
  rw [listed, Bindings.contains] at serves
  cases named : s.names.find? (onlineTableKey "" feature variant) with
  | none =>
    rw [LocalStore.tableNamedNone named] at ran
    rw [named, Option.isSome_none, if_neg (by decide)] at serves
    refine ⟨_, none, none, _, _, performedHere opened ran, serves.returned opened, ?_⟩
    exact agree.next agree.mirrors (fun _ _ named _ => named) .neither
  | some place =>
    obtain ⟨entries, found, -⟩ := agree.mirrors.tableNamed named
    rw [found] at ran
    rw [named, Option.isSome_some, if_pos rfl] at serves
    refine ⟨_, _, _, _, _, performedHere opened ran, serves.returned opened, ?_⟩
    refine agree.next agree.mirrors (fun _ _ named _ => named) ?_
    exact .tables List.getElem?_concat_length rfl fun _ => named

theorem deleteTableMatched (agree : Agree c past held heldThere s k) (feature variant : String)
    (unreserved : onlineTableKey "" feature variant ≠ "__tables__") :
    Matched c past held heldThere s k (.deleteTable feature variant) := by
  have listed := agree.mirrors.listed (onlineTableKey "" feature variant)
  have serves := Redis.deleteTableServes c k feature variant rfl
  have ran := LocalStore.deleteTableOn feature variant s
  have mirrors := agree.mirrors.deleted unreserved
  rw [listed, scopedKey] at serves
  have spared (name : String) (place : Nat) (named : s.names.find? name = some place)
      (other : deletes? (.deleteTable feature variant) ≠ some name) :
      (s.names.erase (onlineTableKey "" feature variant)).find? name = some place := by
    have apart : onlineTableKey "" feature variant ≠ name := fun same => other (congrArg some same)
    rw [Bindings.findErase, if_neg apart, named]
  cases taken : s.names.contains (onlineTableKey "" feature variant) with
  | true =>
    rw [taken, if_pos rfl] at ran serves
    refine ⟨_, none, none, _, _, performedHere closed ran, serves.returned closed, ?_⟩
    exact agree.next mirrors spared .neither
  | false =>
    rw [taken, if_neg (by decide)] at ran serves
    rw [Bindings.eraseAbsent taken] at mirrors
    refine ⟨_, none, none, _, _, performedHere closed ran, serves.returned closed, ?_⟩
    exact agree.next mirrors (fun _ _ named _ => named) .neither

theorem throughMatched (agree : Agree c past held heldThere s k) {call : OnlineCall} {handle : Nat}
    {use : OnlineTable (StateM LocalStore) →
      StateM LocalStore (OnlineAnswer × Option (OnlineTable (StateM LocalStore)))}
    {useThere : OnlineTable Talk → Talk (OnlineAnswer × Option (OnlineTable Talk))}
    (here : perform (LocalStore.store none) held call = through held handle use)
    (there : perform (Redis.store c) heldThere call = through heldThere handle useThere)
    (live : Live past handle)
    (used : ∀ feature variant place, s.names.find? (onlineTableKey "" feature variant) = some place →
      ∃ answer after afterThere, (use (LocalStore.valueTable place)).run s = ((answer, none), after) ∧
        Redis.Runs (useThere (Redis.table c feature variant)) k (answer, none) afterThere ∧
        Mirrors c after afterThere ∧ after.names = s.names) :
    Matched c past held heldThere s k call := by
  have paired := agree.paired handle
  generalize left : held[handle]?.join = onLeft at paired
  generalize right : heldThere[handle]?.join = onRight at paired
  cases paired with
  | neither =>
    refine ⟨.noHandle, none, none, s, k, ?_, ?_, ?_⟩
    · rw [here, through, left]
      rfl
    · rw [there, through, right]
      exact .done _ _
    · exact agree.next agree.mirrors (fun _ _ named _ => named) .neither
  | tables gave opens reached =>
    obtain ⟨answer, after, afterThere, ran, runs, mirrors, names⟩ :=
      used _ _ _ (reached (live _ _ gave opens))
    refine ⟨answer, none, none, after, afterThere, ?_, ?_, ?_⟩
    · rw [here, through, left]
      exact ran
    · rw [there, through, right]
      exact runs
    · exact agree.next mirrors (fun _ _ named _ => names ▸ named) .neither

theorem setMatched (agree : Agree c past held heldThere s k) (handle : Nat) (entity : String)
    {value : FeatureValue} (storable : value.Storable = true)
    (live : Live past handle) :
    Matched c past held heldThere s k (.set handle entity value) := by
  refine throughMatched agree rfl rfl live fun feature variant place named => ?_
  have serves := Redis.setServes c feature variant entity value k
  rw [scopedKey] at serves
  refine ⟨_, _, _, performedHere closed (LocalStore.setOn place entity value s),
    serves.returned closed, agree.mirrors.rewritten named ?_ ?_, rfl⟩
  · intro entries _ written
    refine ⟨_, rfl, ?_⟩
    rw [Keyspace.hashPut, if_pos rfl]
    exact written.insert entity storable
  · intro other apart
    rw [Keyspace.hashPut, if_neg apart]

theorem setBatchMatched (agree : Agree c past held heldThere s k) (handle : Nat)
    {records : List (String × FeatureValue)} (storable : ∀ r ∈ records, r.2.Storable = true)
    (live : Live past handle) :
    Matched c past held heldThere s k (.setBatch handle records) := by
  refine throughMatched agree rfl rfl live fun feature variant place named => ?_
  have serves := Redis.setBatchServes c feature variant records k
  rw [scopedKey] at serves
  refine ⟨_, _, _, performedHere closed (LocalStore.setBatchOn place records s),
    serves.returned closed, agree.mirrors.rewritten named ?_ ?_, rfl⟩
  · intro entries _ written
    refine ⟨_, LocalStore.setEntriesValues records entries, ?_⟩
    rw [Redis.writesLeave, if_pos rfl]
    exact written.insertAll records storable
  · intro other apart
    rw [Redis.writesLeave, if_neg apart]

theorem getMatched (agree : Agree c past held heldThere s k) (handle : Nat) (entity : String)
    (live : Live past handle) :
    Matched c past held heldThere s k (.get handle entity) := by
  refine throughMatched agree rfl rfl live fun feature variant place named => ?_
  obtain ⟨entries, found, written⟩ := agree.mirrors.kept named
  have serves := Redis.getServes c feature variant entity k
  have ran := LocalStore.getOn place entity s
  have same : s.valueAt? place entity = entries.find? entity := by
    rw [LocalStore.valueAt?, found]
  rw [scopedKey, written.read] at serves
  rw [same] at ran
  cases value : entries.find? entity with
  | none =>
    rw [value] at ran serves
    exact ⟨_, _, _, performedHere valued ran, serves.returned valued, agree.mirrors, rfl⟩
  | some v =>
    rw [value] at ran serves
    exact ⟨_, _, _, performedHere valued ran, serves.returned valued, agree.mirrors, rfl⟩

theorem properLive {call : OnlineCall} {rest : List OnlineCall} (proper : Proper (past ++ call :: rest))
    {handle : Nat} (uses : call.handle? = some handle) : Live past handle := by
  intro giver name gave opens later other after found deletes
  have earlier := (List.getElem?_eq_some_iff.mp gave).1
  have inside := (List.getElem?_eq_some_iff.mp found).1
  have gaveThere : (past ++ call :: rest)[handle]? = some giver := by
    rw [List.getElem?_append_left earlier, gave]
  have foundThere : (past ++ call :: rest)[later]? = some other := by
    rw [List.getElem?_append_left inside, found]
  exact proper.live past.length (by simp) later inside handle after
    ⟨by simpa using uses, by simp [gaveThere, opens], by simp [gaveThere, foundThere, opens, deletes]⟩

theorem callMatched (agree : Agree c past held heldThere s k) {call : OnlineCall} {rest : List OnlineCall}
    (proper : Proper (past ++ call :: rest)) : Matched c past held heldThere s k call := by
  have mem : call ∈ past ++ call :: rest := by simp
  have live {handle : Nat} (uses : call.handle? = some handle) := properLive proper uses
  cases call with
  | createTable feature variant type =>
    exact createTableMatched agree feature variant type fun same =>
      proper.unreserved _ mem (congrArg some same)
  | getTable feature variant => exact getTableMatched agree feature variant
  | deleteTable feature variant =>
    exact deleteTableMatched agree feature variant fun same =>
      proper.unreserved _ mem (congrArg some same)
  | set handle entity value =>
    exact setMatched agree handle entity (proper.storable _ mem value (by simp [values])) (live rfl)
  | get handle entity => exact getMatched agree handle entity (live rfl)
  | setBatch handle records =>
    refine setBatchMatched agree handle (fun r inside => ?_) (live rfl)
    exact proper.storable _ mem r.2 (List.mem_map_of_mem inside)

end

theorem answersAgree {held : List (Option (OnlineTable (StateM LocalStore)))}
    {heldThere : List (Option (OnlineTable Talk))} (agree : Agree c past held heldThere s k)
    {rest : List OnlineCall} (proper : Proper (past ++ rest)) :
    ∃ same after afterThere, (answersFrom (LocalStore.store none) held rest).run s = (same, after) ∧
      Redis.Runs (answersFrom (Redis.store c) heldThere rest) k same afterThere := by
  induction rest generalizing past held heldThere s k with
  | nil => exact ⟨[], s, k, rfl, .done _ _⟩
  | cons call rest ih =>
    obtain ⟨answer, left, right, after, afterThere, ran, runs, next⟩ := callMatched agree proper
    obtain ⟨more, last, lastThere, ranMore, runsMore⟩ := ih next (by simpa using proper)
    refine ⟨answer :: more, last, lastThere, ?_, runs.bind (runsMore.bind (.done _ _))⟩
    have split : (answersFrom (LocalStore.store none) held (call :: rest)).run s =
        let first := (perform (LocalStore.store none) held call).run s
        let others := (answersFrom (LocalStore.store none) (held ++ [first.1.2]) rest).run first.2
        (first.1.1 :: others.1, others.2) := rfl
    simp only [split, ran, ranMore]

theorem sameAnswers (c : RedisConfig) (calls : List OnlineCall) (proper : Proper calls) :
    ((answers (LocalStore.store none) calls).run LocalStore.empty).1 =
      ((Redis.onServer (answers (Redis.store c) calls)).run Redis.Server.empty).1 := by
  obtain ⟨same, after, afterThere, ran, runs⟩ :=
    answersAgree (c := c) Agree.start (show Proper ([] ++ calls) from proper)
  obtain ⟨later, there⟩ := runs []
  have onServer : ((Redis.onServer (answers (Redis.store c) calls)).run Redis.Server.empty) =
      (same, Redis.idle afterThere later) := there
  rw [answers, ran, onServer]

def visits : List OnlineCall :=
  [.createTable "balance" "v1" .int, .set 0 "alice" (.int 5), .get 0 "alice", .get 0 "bob",
    .deleteTable "balance" "v1", .getTable "balance" "v1"]

theorem sameAnswersVisits :
    ((Redis.onServer (answers (Redis.store .standard) visits)).run Redis.Server.empty).1 =
      [.done, .done, .value (.int 5), .failed (.error (.notFound "entity" "bob")), .done,
        .failed (.error (.notFound "online table" "balance__v1"))] :=
  (sameAnswers .standard visits (by decide +kernel)).symm.trans rfl

end OnlineCall
end FeatureStore
