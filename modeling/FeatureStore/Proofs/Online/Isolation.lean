import FeatureStore.Proofs.Online.Client
import FeatureStore.Proofs.Online.Redis

/-!
Tables of one store on a Redis server. The list of tables and all tables share one space of keys, in
which the table `__tables__` would lie where the list is. Apart from that name, a call changes what the
server holds of its own table only.
-/
namespace FeatureStore

namespace OnlineCall

def target? (past : List OnlineCall) (call : OnlineCall) : Option String :=
  match call.handle? with
  | some handle => past[handle]?.bind opens?
  | none => call.table?

def located (past : List OnlineCall) : List OnlineCall → List (Option String × OnlineCall)
  | [] => []
  | call :: rest => (target? past call, call) :: located (past ++ [call]) rest

end OnlineCall

namespace Redis
open OnlineCall

structure TableView where
  entry : Option String
  entities : Hash

def Keyspace.view (k : Keyspace) (c : RedisConfig) (name : String) : TableView :=
  ⟨(k.hash c.catalogKey).find? name, k.hash (c.scope ++ name)⟩

inductive Effect (c : RedisConfig) (k : Keyspace) : OnlineCall → Option String → Keyspace → Prop where
  | nothing (call : OnlineCall) (name : Option String) : Effect c k call name k
  | created {feature variant : String} {type : ValueType}
      (free : (k.hash c.catalogKey).contains (onlineTableKey "" feature variant) = false) :
      Effect c k (.createTable feature variant type) (some (onlineTableKey "" feature variant))
        (k.relist c.catalogKey
          ((k.hash c.catalogKey).insert (onlineTableKey "" feature variant) type.toJson.text)
          (c.scope ++ onlineTableKey "" feature variant))
  | deleted (feature variant : String) :
      Effect c k (.deleteTable feature variant) (some (onlineTableKey "" feature variant))
        (k.relist c.catalogKey ((k.hash c.catalogKey).erase (onlineTableKey "" feature variant))
          (c.scope ++ onlineTableKey "" feature variant))
  | wrote {call : OnlineCall} {name : String} {after : Keyspace}
      (left : ∀ other, after.hash other =
        if c.scope ++ name = other then
          (k.hash (c.scope ++ name)).insertAll (call.records.map fun r => (r.1, encodeValue r.2))
        else k.hash other) :
      Effect c k call (some name) after

namespace Effect
variable {c : RedisConfig} {k after : Keyspace} {call : OnlineCall} {target : Option String}
  {other : String}

theorem elsewhere (effect : Effect c k call target after) (apart : target ≠ some other)
    (spares : target ≠ some "__tables__") (ordinary : other ≠ "__tables__") :
    after.view c other = k.view c other := by
  cases effect with
  | nothing => rfl
  | @created feature variant type free =>
    have different : onlineTableKey "" feature variant ≠ other := fun same => apart (congrArg some same)
    have unreserved : onlineTableKey "" feature variant ≠ "__tables__" :=
      fun same => spares (congrArg some same)
    simp only [Keyspace.view, relistCatalog unreserved, relistOther different ordinary,
      Bindings.findInsert, if_neg different]
  | deleted feature variant =>
    have different : onlineTableKey "" feature variant ≠ other := fun same => apart (congrArg some same)
    have unreserved : onlineTableKey "" feature variant ≠ "__tables__" :=
      fun same => spares (congrArg some same)
    simp only [Keyspace.view, relistCatalog unreserved, relistOther different ordinary,
      Bindings.findErase, if_neg different]
  | @wrote _ name _ left =>
    have different : name ≠ other := fun same => apart (congrArg some same)
    have unreserved : name ≠ "__tables__" := fun same => spares (congrArg some same)
    simp only [Keyspace.view, left, if_neg (keysApart different), if_neg (tableNotCatalog unreserved)]

theorem kept (effect : Effect c k call target after) (listed : (k.view c other).entry ≠ none)
    (spares : target ≠ some "__tables__") (ordinary : other ≠ "__tables__")
    (stays : call.deletes? ≠ some other) :
    (after.view c other).entry = (k.view c other).entry ∧
      ∀ entity, (target = some other → ∀ r ∈ call.records, r.1 ≠ entity) →
        (after.view c other).entities.find? entity = (k.view c other).entities.find? entity := by
  by_cases here : target = some other
  · subst here
    cases effect with
    | nothing => exact ⟨rfl, fun _ _ => rfl⟩
    | created free => exact absurd (Bindings.notContainsIff.mp free) listed
    | deleted => exact absurd rfl stays
    | wrote left =>
      refine ⟨?_, fun entity unwritten => ?_⟩
      · simp only [Keyspace.view, left, if_neg (tableNotCatalog ordinary)]
      · simp only [Keyspace.view, left, if_pos]
        refine Bindings.insertAllAbsent fun r mem => ?_
        obtain ⟨source, inside, rfl⟩ := List.mem_map.mp mem
        exact unwritten rfl source inside
  · rw [effect.elsewhere here spares ordinary]
    exact ⟨rfl, fun _ _ => rfl⟩

end Effect

structure Session where
  server : Server
  held : List (Option (OnlineTable Talk))

namespace Session

def start : Session := ⟨.empty, []⟩

def call (c : RedisConfig) (s : Session) (oc : OnlineCall) : OnlineAnswer × Session :=
  let ((answer, handle), server) := (onServer (perform (store c) s.held oc)).run s.server
  (answer, ⟨server, s.held ++ [handle]⟩)

def calls (c : RedisConfig) (s : Session) (ocs : List OnlineCall) : Session :=
  ocs.foldl (fun s oc => (s.call c oc).2) s

def after (c : RedisConfig) (ocs : List OnlineCall) : Session := start.calls c ocs

def view (s : Session) (c : RedisConfig) (name : String) : TableView := s.server.keyspace.view c name

def read (c : RedisConfig) (s : Session) (feature variant entity : String) : OnlineAnswer :=
  (((s.call c (.getTable feature variant)).2).call c (.get s.held.length entity)).1

structure Sound (c : RedisConfig) (past : List OnlineCall) (s : Session) : Prop where
  idle : ∃ received, s.server = idle s.server.keyspace received
  count : s.held.length = past.length
  leads {number : Nat} {t : OnlineTable Talk} : s.held[number]?.join = some t →
    ∃ feature variant, past[number]?.bind opens? = some (onlineTableKey "" feature variant) ∧
      t = table c feature variant

variable {c : RedisConfig} {past : List OnlineCall} {s : Session}

theorem Sound.start : Sound c [] start := ⟨⟨[], rfl⟩, rfl, fun held => by simp [Session.start] at held⟩

def Performed (c : RedisConfig) (past : List OnlineCall) (s : Session) (oc : OnlineCall) : Prop :=
  ∃ answer handle k, Runs (perform (store c) s.held oc) s.server.keyspace (answer, handle) k ∧
    Effect c s.server.keyspace oc (target? past oc) k ∧
    ∀ t, handle = some t → ∃ feature variant,
      oc.opens? = some (onlineTableKey "" feature variant) ∧ t = table c feature variant

theorem performedThrough (sound : Sound c past s) {oc : OnlineCall} {handle : Nat}
    {use : OnlineTable Talk → Talk (OnlineAnswer × Option (OnlineTable Talk))}
    (uses : oc.handle? = some handle) (there : perform (store c) s.held oc = through s.held handle use)
    (used : ∀ feature variant, ∃ answer k,
      Runs (use (table c feature variant)) s.server.keyspace (answer, none) k ∧
        Effect c s.server.keyspace oc (some (onlineTableKey "" feature variant)) k) :
    Performed c past s oc := by
  cases given : s.held[handle]?.join with
  | none =>
    refine ⟨.noHandle, none, s.server.keyspace, ?_, .nothing _ _, fun t gave => by cases gave⟩
    rw [there, through, given]
    exact .done _ _
  | some t =>
    obtain ⟨feature, variant, opens, rfl⟩ := sound.leads given
    obtain ⟨answer, k, runs, effect⟩ := used feature variant
    have on : target? past oc = some (onlineTableKey "" feature variant) := by
      rw [target?, uses]
      exact opens
    refine ⟨answer, none, k, ?_, on ▸ effect, fun t gave => by cases gave⟩
    rw [there, through, given]
    exact runs

theorem performed (sound : Sound c past s) (oc : OnlineCall) : Performed c past s oc := by
  cases oc with
  | createTable feature variant type =>
    cases taken : (s.server.keyspace.hash c.catalogKey).contains (onlineTableKey "" feature variant) with
    | true =>
      have serves := createTableTaken c s.server.keyspace feature variant type taken
      exact ⟨_, _, _, serves.returned opened, .nothing _ _, fun t gave => by cases gave⟩
    | false =>
      have serves := createTableServes c s.server.keyspace feature variant type taken
      rw [scopedKey] at serves
      refine ⟨_, _, _, serves.returned opened, .created taken, fun t gave => ?_⟩
      cases gave
      exact ⟨feature, variant, rfl, rfl⟩
  | getTable feature variant =>
    cases known : (s.server.keyspace.hash c.catalogKey).contains (onlineTableKey "" feature variant) with
    | true =>
      have serves := getTableServes c s.server.keyspace feature variant known
      refine ⟨_, _, _, serves.returned opened, .nothing _ _, fun t gave => ?_⟩
      cases gave
      exact ⟨feature, variant, rfl, rfl⟩
    | false =>
      have serves := getTableServes c s.server.keyspace feature variant known
      exact ⟨_, _, _, serves.returned opened, .nothing _ _, fun t gave => by cases gave⟩
  | deleteTable feature variant =>
    have serves := deleteTableServes c s.server.keyspace feature variant rfl
    rw [scopedKey] at serves
    refine ⟨_, _, _, serves.returned closed, .deleted _ _, fun t gave => ?_⟩
    split at gave <;> cases gave
  | set handle entity value =>
    refine performedThrough sound rfl rfl fun feature variant => ?_
    have serves := setServes c feature variant entity value s.server.keyspace
    rw [scopedKey] at serves
    exact ⟨_, _, serves.returned closed, .wrote fun other => Keyspace.hashPut _ _ _ _⟩
  | get handle entity =>
    refine performedThrough sound rfl rfl fun feature variant => ?_
    have serves := getServes c feature variant entity s.server.keyspace
    cases read : fieldValue entity ((s.server.keyspace.hash
        (onlineTableKey c.scope feature variant)).find? entity) with
    | ok value =>
      rw [read] at serves
      exact ⟨_, _, serves.returned valued, .nothing _ _⟩
    | error failure =>
      rw [read] at serves
      exact ⟨_, _, serves.returned valued, .nothing _ _⟩
  | setBatch handle records =>
    refine performedThrough sound rfl rfl fun feature variant => ?_
    have serves := setBatchServes c feature variant records s.server.keyspace
    rw [scopedKey] at serves
    exact ⟨_, _, serves.returned closed, .wrote fun other => writesLeave _ _ _ _⟩

theorem answered (sound : Sound c past s) (oc : OnlineCall) {answer : OnlineAnswer}
    {handle : Option (OnlineTable Talk)} {k : Keyspace}
    (runs : Runs (perform (store c) s.held oc) s.server.keyspace (answer, handle) k) :
    ∃ received, s.call c oc = (answer, ⟨Redis.idle k received, s.held ++ [handle]⟩) := by
  obtain ⟨before, still⟩ := sound.idle
  obtain ⟨received, ran⟩ := runs before
  exact ⟨received, by rw [call, still, ran]⟩

theorem Sound.next (sound : Sound c past s) (oc : OnlineCall) :
    Sound c (past ++ [oc]) (s.call c oc).2 ∧
      Effect c s.server.keyspace oc (target? past oc) (s.call c oc).2.server.keyspace := by
  obtain ⟨answer, handle, k, runs, effect, gives⟩ := performed sound oc
  obtain ⟨received, same⟩ := answered sound oc runs
  rw [same]
  refine ⟨⟨⟨received, rfl⟩, by simp [sound.count], fun {number t} held => ?_⟩, effect⟩
  change (s.held ++ [handle])[number]?.join = some t at held
  rcases Nat.lt_trichotomy number past.length with old | here | beyond
  · rw [List.getElem?_append_left (by rwa [sound.count])] at held
    rw [List.getElem?_append_left old]
    exact sound.leads held
  · subst here
    have last : (s.held ++ [handle])[past.length]? = some handle := by simp [← sound.count]
    rw [last] at held
    obtain ⟨feature, variant, opens, same⟩ := gives t held
    exact ⟨feature, variant, by simpa using opens, same⟩
  · have none : (s.held ++ [handle])[number]? = none := by
      rw [List.getElem?_eq_none_iff, List.length_append, sound.count]
      exact beyond
    rw [none] at held
    cases held

theorem Sound.calls (sound : Sound c past s) (ocs : List OnlineCall) :
    Sound c (past ++ ocs) (s.calls c ocs) := by
  induction ocs generalizing past s with
  | nil => simpa [Session.calls] using sound
  | cons oc rest ih => simpa [Session.calls] using ih (sound.next oc).1

theorem soundAfter (c : RedisConfig) (ocs : List OnlineCall) : Sound c ocs (after c ocs) :=
  Sound.start.calls ocs

section
variable {more : List OnlineCall} {name : String}

theorem viewElsewhere (sound : Sound c past s) (ordinary : name ≠ "__tables__")
    (spared : ∀ p ∈ located past more, p.1 ≠ some "__tables__")
    (elsewhere : ∀ p ∈ located past more, p.1 ≠ some name) :
    (s.calls c more).view c name = s.view c name := by
  induction more generalizing past s with
  | nil => rfl
  | cons oc rest ih =>
    obtain ⟨first, effect⟩ := sound.next oc
    have later := ih first (fun p mem => spared p (by simp [located, mem]))
      fun p mem => elsewhere p (by simp [located, mem])
    have now := effect.elsewhere (elsewhere (target? past oc, oc) (by simp [located]))
      (spared (target? past oc, oc) (by simp [located])) ordinary
    exact later.trans now

theorem viewKept (sound : Sound c past s) (ordinary : name ≠ "__tables__")
    (listed : (s.view c name).entry ≠ none)
    (spared : ∀ p ∈ located past more, p.1 ≠ some "__tables__")
    (stays : ∀ oc ∈ more, oc.deletes? ≠ some name) :
    ((s.calls c more).view c name).entry = (s.view c name).entry ∧
      ∀ entity, (∀ p ∈ located past more, p.1 = some name → ∀ r ∈ p.2.records, r.1 ≠ entity) →
        ((s.calls c more).view c name).entities.find? entity =
          (s.view c name).entities.find? entity := by
  induction more generalizing past s with
  | nil => exact ⟨rfl, fun _ _ => rfl⟩
  | cons oc rest ih =>
    obtain ⟨first, effect⟩ := sound.next oc
    obtain ⟨still, same⟩ := effect.kept listed
      (spared (target? past oc, oc) (by simp [located])) ordinary (stays oc (by simp))
    obtain ⟨stillLater, sameLater⟩ := ih first (by rw [view, still]; exact listed)
      (fun p mem => spared p (by simp [located, mem])) fun d mem => stays d (by simp [mem])
    refine ⟨stillLater.trans still, fun entity unwritten => ?_⟩
    have later := sameLater entity fun p mem => unwritten p (by simp [located, mem])
    exact later.trans (same entity (unwritten (target? past oc, oc) (by simp [located])))

end

theorem getTableAnswers (sound : Sound c past s) (feature variant : String) :
    ∃ received, s.call c (.getTable feature variant) =
      if (s.view c (onlineTableKey "" feature variant)).entry.isSome then
        (.done, ⟨Redis.idle s.server.keyspace received, s.held ++ [some (table c feature variant)]⟩)
      else
        (.failed (.error (.notFound "online table" (onlineTableKey "" feature variant))),
          ⟨Redis.idle s.server.keyspace received, s.held ++ [none]⟩) := by
  cases known : (s.view c (onlineTableKey "" feature variant)).entry.isSome with
  | true | false =>
    have serves := getTableServes c s.server.keyspace feature variant known
    exact answered sound _ (serves.returned opened)

theorem getTableListed (sound : Sound c past s) {feature variant : String}
    (there : (s.call c (.getTable feature variant)).1 = .done) :
    (s.view c (onlineTableKey "" feature variant)).entry ≠ none := by
  obtain ⟨received, got⟩ := getTableAnswers sound feature variant
  rw [got] at there
  split at there
  · rename_i known
    exact Option.isSome_iff_ne_none.mp known
  · cases there

theorem createdListed (sound : Sound c past s) {feature variant : String} {type : ValueType}
    (ordinary : onlineTableKey "" feature variant ≠ "__tables__")
    (made : (s.call c (.createTable feature variant type)).1 = .done) :
    ((s.call c (.createTable feature variant type)).2.view c
      (onlineTableKey "" feature variant)).entry.isSome := by
  cases taken : (s.server.keyspace.hash c.catalogKey).contains (onlineTableKey "" feature variant) with
  | true =>
    have serves := createTableTaken c s.server.keyspace feature variant type taken
    obtain ⟨received, same⟩ := answered sound (.createTable feature variant type)
      (serves.returned opened)
    rw [same] at made
    cases made
  | false =>
    have serves := createTableServes c s.server.keyspace feature variant type taken
    rw [scopedKey] at serves
    obtain ⟨received, same⟩ := answered sound (.createTable feature variant type)
      (serves.returned opened)
    rw [same]
    simp [view, Keyspace.view, Redis.idle, relistCatalog ordinary, Bindings.findInsert]

theorem getAnswers (sound : Sound c past s) {number : Nat} {feature variant : String}
    (given : s.held[number]?.join = some (table c feature variant)) (entity : String) :
    (s.call c (.get number entity)).1 =
      shown (fieldValue entity
        ((s.view c (onlineTableKey "" feature variant)).entities.find? entity)) := by
  have serves := (getServes c feature variant entity s.server.keyspace).returned (valued (m := Talk))
  have there : perform (store c) s.held (.get number entity) =
      (do return valued (← ((table c feature variant).get entity).run)) := by
    simp only [perform, through, given]
  rw [← there, scopedKey, valuedShown] at serves
  obtain ⟨received, same⟩ := answered sound (.get number entity) serves
  rw [same]
  rfl

theorem readOf (sound : Sound c past s) (feature variant entity : String)
    (listed : (s.view c (onlineTableKey "" feature variant)).entry ≠ none) :
    s.read c feature variant entity =
      shown (fieldValue entity
        ((s.view c (onlineTableKey "" feature variant)).entities.find? entity)) := by
  have next := (sound.next (.getTable feature variant)).1
  obtain ⟨received, got⟩ := getTableAnswers sound feature variant
  rw [if_pos (Option.isSome_iff_ne_none.mpr listed)] at got
  rw [got] at next
  have given : (s.held ++ [some (table c feature variant)])[s.held.length]?.join =
      some (table c feature variant) := by simp
  simp only [read, got]
  exact getAnswers next given entity

/-- Calls on other tables leave what the server holds of a table as it is. A table that has been
created is there, and one that is there stays and reads as before while no call deletes it or writes
the entity, as long as no call is on the table whose name is the list's. -/
theorem tablesApart (c : RedisConfig) (past more : List OnlineCall) (feature variant : String)
    (ordinary : onlineTableKey "" feature variant ≠ "__tables__")
    (spared : ∀ p ∈ located past more, p.1 ≠ some "__tables__") :
    let name := onlineTableKey "" feature variant
    let before := after c past
    let later := after c (past ++ more)
    ((∀ p ∈ located past more, p.1 ≠ some name) → later.view c name = before.view c name) ∧
    (∀ type, (before.call c (.createTable feature variant type)).1 = .done →
      (((before.call c (.createTable feature variant type)).2).call c
        (.getTable feature variant)).1 = .done) ∧
    ((before.call c (.getTable feature variant)).1 = .done →
      (∀ oc ∈ more, oc.deletes? ≠ some name) →
        (later.call c (.getTable feature variant)).1 = .done ∧
        ∀ entity, (∀ p ∈ located past more, p.1 = some name → ∀ r ∈ p.2.records, r.1 ≠ entity) →
          later.read c feature variant entity = before.read c feature variant entity) := by
  intro name before later
  have sound : Sound c past before := soundAfter c past
  have onward : later = before.calls c more := List.foldl_append
  have soundLater : Sound c (past ++ more) later := soundAfter c (past ++ more)
  refine ⟨fun elsewhere => ?_, fun type made => ?_, fun there stays => ?_⟩
  · rw [onward]
    exact viewElsewhere sound ordinary spared elsewhere
  · have known : ((before.call c (.createTable feature variant type)).2.view c name).entry.isSome :=
      createdListed sound ordinary made
    obtain ⟨received, got⟩ := getTableAnswers (sound.next (.createTable feature variant type)).1
      feature variant
    rw [got, if_pos known]
  · have listed : (before.view c name).entry ≠ none := getTableListed sound there
    obtain ⟨still, same⟩ := viewKept sound ordinary listed spared stays
    rw [← onward] at still same
    have listedLater : (later.view c name).entry ≠ none := still ▸ listed
    obtain ⟨received, got⟩ := getTableAnswers soundLater feature variant
    refine ⟨by rw [got, if_pos (Option.isSome_iff_ne_none.mpr listedLater)], fun entity unwritten => ?_⟩
    rw [readOf soundLater feature variant entity listedLater, readOf sound feature variant entity listed,
      same entity unwritten]

def openings : List OnlineCall :=
  [.createTable "balance" "v1" .int, .set 0 "alice" (.int 5), .createTable "balance" "v2" .int]

def elsewhere : List OnlineCall := [.set 2 "alice" (.int 7), .deleteTable "balance" "v2"]

theorem tablesApartBalance :
    (after .standard (openings ++ elsewhere)).view .standard "balance__v1" =
        (after .standard openings).view .standard "balance__v1" ∧
      (after .standard (openings ++ elsewhere)).read .standard "balance" "v1" "alice" =
        .value (.int 5) := by
  have apart := tablesApart .standard openings elsewhere "balance" "v1" (by decide +kernel)
    (by decide +kernel)
  refine ⟨apart.1 (by decide +kernel), ?_⟩
  have alice := (apart.2.2 rfl (by decide +kernel)).2 "alice" (by decide +kernel)
  have there : ((after .standard openings).view .standard (onlineTableKey "" "balance" "v1")).entities.find?
      "alice" = some (encodeValue (.int 5)) := rfl
  rw [alice, readOf (soundAfter .standard openings) "balance" "v1" "alice" (by decide +kernel), there,
    fieldValue, decodeEncoded rfl]
  rfl

theorem tableOverList :
    let before := after .standard openings
    let later := after .standard (openings ++ [.createTable "" "tables__" .string])
    (before.call .standard (.getTable "balance" "v1")).1 = .done ∧
      (later.call .standard (.getTable "balance" "v1")).1 =
        .failed (.error (.notFound "online table" "balance__v1")) :=
  ⟨rfl, rfl⟩

end Session
end Redis
end FeatureStore
