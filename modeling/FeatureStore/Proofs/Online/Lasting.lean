import FeatureStore.Proofs.Online.Sharing

/-!
Which writes last among clients that share a server. A client that has looked a table up writes to it:
every later read shows the write, as long as no one deletes the table or writes the entity, unless some
client had claimed the name and had yet to clear the table.
-/
namespace FeatureStore.Redis
open OnlineCall Shared

variable {c : RedisConfig} {sizes : Nat → WordSize} {s : Shared} {name entity text : String}
  {commands : List Command}

namespace Shared

theorem Ran.listed (ran : Ran c s commands) {k : Keyspace}
    (listed : (k.hash c.catalogKey).contains name = true)
    (undeleted : .hdel c.catalogKey name ∉ commands) :
    ((k.runAll commands).2.hash c.catalogKey).contains name = true := by
  cases ran with
  | nothing => exact listed
  | looked => exact listed
  | read => exact listed
  | claimed other text =>
    simp only [Keyspace.runAll, Keyspace.run]
    split
    · exact listed
    · simp only [Bindings.contains] at listed ⊢
      simp only [Keyspace.hashPut, if_true, Bindings.findInsert]
      split
      · rfl
      · exact listed
  | wrote entity text unreserved =>
    simpa [Keyspace.runAll, Keyspace.run, Keyspace.hashPut, tableNotCatalog unreserved] using listed
  | cleared unreserved =>
    simpa [Keyspace.runAll, Keyspace.run, Keyspace.hashErase, tableNotCatalog unreserved] using listed
  | @deleted other unreserved =>
    have apart : other ≠ name := fun same => undeleted (by simp [same])
    simp only [Bindings.contains] at listed ⊢
    simpa [Keyspace.runAll, Keyspace.run, Keyspace.hashErase, Keyspace.hashPut,
      tableNotCatalog unreserved, Bindings.findErase, apart] using listed

theorem Ran.field (ran : Ran c s commands) (calm : ¬ Clearing c s name)
    (unreserved : name ≠ "__tables__") (undeleted : .hdel c.catalogKey name ∉ commands)
    (unwritten : ∀ text, .hset (c.scope ++ name) entity text ∉ commands) (k : Keyspace) :
    ((k.runAll commands).2.hash (c.scope ++ name)).find? entity =
      (k.hash (c.scope ++ name)).find? entity := by
  have apart := (tableNotCatalog (c := c) unreserved).symm
  cases ran with
  | nothing => rfl
  | looked => rfl
  | read => rfl
  | claimed other text =>
    simp only [Keyspace.runAll, Keyspace.run]
    split
    · rfl
    · simp only [Keyspace.hashPut, if_neg apart]
  | @wrote other e text =>
    by_cases same : other = name
    · subst same
      have different : e ≠ entity := fun here => unwritten text (by simp [here])
      simp [Keyspace.runAll, Keyspace.run, Keyspace.hashPut, Bindings.findInsert, different]
    · simp [Keyspace.runAll, Keyspace.run, Keyspace.hashPut, same]
  | @cleared other _ clearing =>
    have different : other ≠ name := fun same => calm (same ▸ clearing)
    simp [Keyspace.runAll, Keyspace.run, Keyspace.hashErase, different]
  | @deleted other =>
    have different : other ≠ name := fun same => undeleted (by simp [same])
    simp [Keyspace.runAll, Keyspace.run, Keyspace.hashErase, Keyspace.hashPut, different, apart]

theorem Stepped.calm {who : Nat} {after : Shared} (step : Stepped c s who commands after)
    (listed : (s.keyspace.hash c.catalogKey).contains name = true) (calm : ¬ Clearing c s name) :
    ¬ Clearing c after name := by
  rintro ⟨other, p, there, clears⟩
  by_cases here : other = who
  · subst here
    rcases step.claims p name there clears with before | free
    · exact calm ⟨other, p, before, clears⟩
    · rw [listed] at free
      cases free
  · rw [step.elsewhere other here] at there
    exact calm ⟨other, p, there, clears⟩

theorem listedAfter (sound : Sound c s) {ms : List Move} (ordinary : Ordinary ms)
    (listed : (s.keyspace.hash c.catalogKey).contains name = true)
    (undeleted : .hdel c.catalogKey name ∉ s.trail c sizes ms) :
    ((s.moves c sizes ms).keyspace.hash c.catalogKey).contains name = true := by
  induction ms generalizing s with
  | nil => exact listed
  | cons m rest ih =>
    rw [trail, List.mem_append, not_or] at undeleted
    obtain ⟨here, later⟩ := ordinaryCons.mp ordinary
    have first := stepped sizes sound m here
    refine ih first.sound later ?_ undeleted.2
    rw [first.keyspace]
    exact first.ran.listed listed undeleted.1

structure Lasting (c : RedisConfig) (name entity text : String) (s : Shared) : Prop where
  sound : Sound c s
  listed : (s.keyspace.hash c.catalogKey).contains name = true
  calm : ¬ Clearing c s name
  field : (s.keyspace.hash (c.scope ++ name)).find? entity = some text

theorem Lasting.stays (sizes : Nat → WordSize) (lasting : Lasting c name entity text s)
    (unreserved : name ≠ "__tables__") (m : Move) (ordinary : m.table? ≠ some "__tables__")
    (undeleted : .hdel c.catalogKey name ∉ s.executes m)
    (unwritten : ∀ text, .hset (c.scope ++ name) entity text ∉ s.executes m) :
    Lasting c name entity text (step c sizes s m) := by
  have step := stepped sizes lasting.sound m ordinary
  refine ⟨step.sound, ?_, step.calm lasting.listed lasting.calm, ?_⟩
  · rw [step.keyspace]
    exact step.ran.listed lasting.listed undeleted
  · rw [step.keyspace, step.ran.field lasting.calm unreserved undeleted unwritten]
    exact lasting.field

theorem Lasting.staysAll (lasting : Lasting c name entity text s) (unreserved : name ≠ "__tables__")
    {ms : List Move} (ordinary : Ordinary ms)
    (undeleted : .hdel c.catalogKey name ∉ s.trail c sizes ms)
    (unwritten : ∀ text, .hset (c.scope ++ name) entity text ∉ s.trail c sizes ms) :
    Lasting c name entity text (s.moves c sizes ms) := by
  induction ms generalizing s with
  | nil => exact lasting
  | cons m rest ih =>
    rw [trail, List.mem_append, not_or] at undeleted
    have apart (text : String) := not_or.mp (mt List.mem_append.mpr (unwritten text))
    obtain ⟨here, later⟩ := ordinaryCons.mp ordinary
    have first := lasting.stays sizes unreserved m here undeleted.1 fun text => (apart text).1
    exact ih first later undeleted.2 fun text => (apart text).2

def Returns (c : RedisConfig) (sizes : Nat → WordSize) (s : Shared) (m : Move) (r : Report) : Prop :=
  (step c sizes s m).reports = s.reports ++ [r]

theorem Returns.told {m : Move} {r : Report} (returns : Returns c sizes s m r) (sound : Sound c s)
    (ordinary : m.table? ≠ some "__tables__") :
    (step c sizes s m).pending m.client = none ∧
      Told c s.reports (step c sizes s m).keyspace r.call r.answer := by
  rcases (stepped sizes sound m ordinary).reported with
    same | ⟨oc, answer, handle, same, idle, told⟩
  · rw [Returns, same] at returns
    simp at returns
  · rw [Returns, same] at returns
    cases List.append_cancel_left returns
    exact ⟨idle, told⟩

theorem leadsUnreserved (sound : Sound c s) {handle : Nat}
    (leading : leads s.reports handle = some name) : name ≠ "__tables__" := by
  rcases held sound.gives handle with ⟨-, lost⟩ | ⟨feature, variant, size, -, there, unreserved⟩
  · rw [lost] at leading
    cases leading
  · rw [there] at leading
    cases leading
    exact unreserved

def readAnswer (c : RedisConfig) (k : Keyspace) (name entity : String) : OnlineAnswer :=
  shown (fieldValue entity ((k.hash (c.scope ++ name)).find? entity))

theorem readReturns (sound : Sound c s) {who handle : Nat} {d : Command}
    {next : List Reply → Talk Returned}
    (there : s.pending who = some ⟨.get handle entity, d, [], [], next⟩)
    (leading : leads s.reports handle = some name) :
    s.executes (.deliver who) = [.hget (c.scope ++ name) entity] ∧
      Returns c sizes s (.deliver who)
        ⟨who, .get handle entity, readAnswer c s.keyspace name entity, none⟩ := by
  have stage := sound.placed who
  rw [there] at stage
  simp only [Placed] at stage
  generalize quiet : s.queued who = queued at stage
  cases stage with
  | @reading _ other _ _ first read =>
    rw [leading] at first
    cases first
    refine ⟨by simp [executes, there, quiet], ?_⟩
    have plain : Plain (.hget (c.scope ++ name) entity) := by simp [Plain]
    simp only [Returns, step, there, receiveAlone quiet plain]
    rw [show [] ++ [Reply.item _] = [Reply.item _] from rfl, read, valuedShown]
    rfl

theorem readNow (sizes : Nat → WordSize) (sound : Sound c s) {who handle : Nat}
    (idle : s.pending who = none) (leading : leads s.reports handle = some name) (entity : String) :
    let asked := step c sizes s (.call who (.get handle entity))
    asked.reports = s.reports ∧
      asked.executes (.deliver who) = [.hget (c.scope ++ name) entity] ∧
      Returns c sizes asked (.deliver who)
        ⟨who, .get handle entity, readAnswer c s.keyspace name entity, none⟩ := by
  intro asked
  obtain ⟨d, next, same⟩ : ∃ d next, asked =
      s.put who (some ⟨.get handle entity, d, [], [], next⟩) := by
    rcases held sound.gives handle with ⟨-, lost⟩ | ⟨feature, variant, size, given, -⟩
    · rw [lost] at leading
      cases leading
    · simp only [asked, step, idle, perform, through, given]
      exact ⟨_, _, rfl⟩
  have plain := (ordinaryCons.mp (readOrdinary who handle entity)).1
  have now : Sound c asked := (stepped sizes sound (.call who (.get handle entity)) plain).sound
  rw [same] at now ⊢
  exact ⟨rfl, readReturns now (Function.update_self ..) leading⟩

/- Whatever clients do next, short of deleting the table or writing the entity, every call that reads
the entity through a handle of the table returns the value. -/
def Keeps (c : RedisConfig) (sizes : Nat → WordSize) (s : Shared) (name entity : String)
    (value : FeatureValue) : Prop :=
  ∀ ms m r handle, Ordinary (ms ++ [m]) →
    .hdel c.catalogKey name ∉ s.trail c sizes (ms ++ [m]) →
    (∀ text, .hset (c.scope ++ name) entity text ∉ s.trail c sizes (ms ++ [m])) →
    Returns c sizes (s.moves c sizes ms) m r → r.call = .get handle entity →
    leads (s.moves c sizes ms).reports handle = some name → r.answer = .value value

theorem Lasting.keeps {value : FeatureValue}
    (lasting : Lasting c name entity (encodeValue value) s)
    (readable : decodeValue (encodeValue value) = .ok value) :
    Keeps c sizes s name entity value := by
  intro ms m r handle ordinary undeleted unwritten returns call leading
  obtain ⟨before, now⟩ := ordinaryAppend.mp ordinary
  have sound : Sound c (s.moves c sizes ms) := movesSound sizes lasting.sound before
  have told := (returns.told sound (ordinaryCons.mp now).1).2
  have last := lasting.staysAll (leadsUnreserved sound leading) ordinary undeleted unwritten
  rw [movesAppend] at last
  have field : ((step c sizes (s.moves c sizes ms) m).keyspace.hash (c.scope ++ name)).find? entity =
      some (encodeValue value) := last.field
  rw [call] at told
  have answered := told name leading
  rw [field, fieldValue, readable] at answered
  exact answered

theorem clearingRuns (sound : Sound c s) (clearing : Clearing c s name) :
    ∃ who, s.executes (.deliver who) = [.del (c.scope ++ name)] ∧ s.pending who ≠ none := by
  obtain ⟨who, p, there, opens, first⟩ := clearing
  have stage := sound.placed who
  rw [there] at stage
  simp only [Placed] at stage
  generalize quiet : s.queued who = queued at stage
  cases stage with
  | clearing =>
    cases opens
    exact ⟨who, by simp [executes, there, quiet], by simp [there]⟩
  | claiming => cases first
  | looking => cases first
  | removing => cases opens
  | setting => cases opens
  | reading => cases opens
  | writing => cases opens

theorem Keeps.read {value : FeatureValue} (keeps : Keeps c sizes s name entity value) (ms : List Move)
    (ordinary : Ordinary ms)
    (undeleted : .hdel c.catalogKey name ∉ s.trail c sizes ms)
    (unwritten : ∀ text, .hset (c.scope ++ name) entity text ∉ s.trail c sizes ms)
    (sound : Sound c (s.moves c sizes ms)) {who handle : Nat}
    (idle : (s.moves c sizes ms).pending who = none)
    (leading : leads (s.moves c sizes ms).reports handle = some name) :
    readAnswer c (s.moves c sizes ms).keyspace name entity = .value value := by
  obtain ⟨same, reads, returns⟩ := readNow sizes sound idle leading entity
  have trailed : s.trail c sizes (ms ++ [.call who (.get handle entity)] ++ [.deliver who]) =
      s.trail c sizes ms ++ [.hget (c.scope ++ name) entity] := by
    rw [List.append_assoc, trailAppend]
    simp only [List.singleton_append, trail, reads]
    rfl
  refine keeps (ms ++ [.call who (.get handle entity)]) (.deliver who) _ handle
    (ordinaryAppend.mpr ⟨ordinaryAppend.mpr ⟨ordinary, readOrdinary who handle entity⟩,
      deliverOrdinary who⟩) ?_ (fun text => ?_)
    (by rw [movesAppend]; exact returns) rfl ?_
  · rw [trailed]
    simpa using undeleted
  · rw [trailed]
    simpa using unwritten text
  · rw [movesAppend]
    exact same.symm ▸ leading

theorem keepsIff (sound : Sound c s) {value : FeatureValue} {who handle : Nat}
    (listed : (s.keyspace.hash c.catalogKey).contains name = true)
    (field : (s.keyspace.hash (c.scope ++ name)).find? entity = some (encodeValue value))
    (idle : s.pending who = none) (leading : leads s.reports handle = some name) :
    Keeps c sizes s name entity value ↔
      ¬ Clearing c s name ∧ decodeValue (encodeValue value) = .ok value := by
  refine ⟨fun keeps => ⟨fun clearing => ?_, ?_⟩, fun ⟨calm, readable⟩ =>
    Lasting.keeps ⟨sound, listed, calm, field⟩ readable⟩
  -- the other client clears the table, and then the one that has written reads
  · obtain ⟨other, clears, busy⟩ := clearingRuns sound clearing
    have apart : who ≠ other := fun same => busy (same ▸ idle)
    have plain := deliverOrdinary other
    have cleared := stepped sizes sound (.deliver other) (ordinaryCons.mp plain).1
    have idleNow : (step c sizes s (.deliver other)).pending who = none := by
      rw [cleared.elsewhere who apart, idle]
    obtain ⟨more, grown⟩ := reportsGrow sizes sound plain
    have told := keeps.read [.deliver other] plain (by simp [trail, clears]) (by simp [trail, clears])
      cleared.sound idleNow (grown ▸ leadsLater leading more)
    have gone : readAnswer c (step c sizes s (.deliver other)).keyspace name entity =
        .failed (.error (.notFound "entity" entity)) := by
      rw [cleared.keyspace, clears, readAnswer]
      simp only [Keyspace.runAll, Keyspace.run, Keyspace.hashErase, if_true]
      rfl
    cases gone.symm.trans told
  · have there : readAnswer c s.keyspace name entity = .value value :=
      keeps.read [] (by simp [Ordinary]) (by simp [trail]) (by simp [trail]) sound idle leading
    simp only [readAnswer, field, fieldValue] at there
    cases decoded : decodeValue (encodeValue value) with
    | ok v =>
      rw [decoded] at there
      cases there
      rfl
    | error e =>
      rw [decoded] at there
      cases there

theorem handleOf (sound : Sound c s) {m : Move} {r : Report} (returns : Returns c sizes s m r)
    (ordinary : m.table? ≠ some "__tables__") {between : List Move} (later : Ordinary between)
    (leading : leads ((step c sizes s m).moves c sizes between).reports s.reports.length = some name) :
    r.call.opens? = some name := by
  obtain ⟨more, grown⟩ := reportsGrow sizes (stepped sizes sound m ordinary).sound later
  have there : (s.reports ++ [r] ++ more)[s.reports.length]? = some r := by simp
  rw [grown, returns, leads, there, Option.bind_some] at leading
  split at leading
  · exact leading
  · cases leading

/-- A client has looked a table up and then has written to it through the handle. The write lasts when
its text can be read and at that time no client is between its claim of the name and the clearing of
the table, and only then. -/
theorem writeLasts (c : RedisConfig) (sizes : Nat → WordSize) (k : Keyspace) (past between : List Move)
    (look write : Move) (looked wrote : Report) (feature variant entity : String) (value : FeatureValue)
    (ordinary : Ordinary (past ++ look :: between ++ [write]))
    (lookReturns : Returns c sizes ((start k).moves c sizes past) look looked)
    (found : looked.call = .getTable feature variant ∧ looked.answer = .done)
    (writeReturns : Returns c sizes ((start k).moves c sizes (past ++ look :: between)) write wrote)
    (done : wrote.call = .set ((start k).moves c sizes past).reports.length entity value ∧
      wrote.answer = .done)
    (undeleted : .hdel c.catalogKey (onlineTableKey "" feature variant) ∉
      ((start k).moves c sizes (past ++ [look])).trail c sizes (between ++ [write])) :
    let after := (start k).moves c sizes (past ++ look :: between ++ [write])
    Keeps c sizes after (onlineTableKey "" feature variant) entity value ↔
      ¬ Clearing c after (onlineTableKey "" feature variant) ∧
        decodeValue (encodeValue value) = .ok value := by
  obtain ⟨before, plainWrite⟩ := ordinaryAppend.mp ordinary
  obtain ⟨plainPast, plainRest⟩ := ordinaryAppend.mp before
  obtain ⟨plainLook, plainBetween⟩ := ordinaryCons.mp plainRest
  simp only [movesAppend] at undeleted writeReturns ⊢
  have sound := movesSound sizes (startSound c k) plainPast
  have looks := stepped sizes sound look plainLook
  have listed := (lookReturns.told sound plainLook).2
  rw [found.1] at listed
  have stays := listedAfter looks.sound (ordinaryAppend.mpr ⟨plainBetween, plainWrite⟩) (listed found.2)
    undeleted
  have soundBetween := movesSound sizes looks.sound plainBetween
  obtain ⟨idle, told⟩ := writeReturns.told soundBetween (ordinaryCons.mp plainWrite).1
  rw [done.1] at told
  obtain ⟨name, leading, field⟩ := told done.2
  have opens := handleOf sound lookReturns plainLook plainBetween leading
  rw [found.1] at opens
  cases opens
  rw [movesAppend] at stays
  have still := leadsLater leading [wrote]
  rw [← show (step c sizes _ write).reports = _ ++ [wrote] from writeReturns] at still
  exact keepsIff (movesSound sizes soundBetween plainWrite) stays field idle still

def one (_ : Nat) : WordSize := RedisConfig.standard.batchSize

def created : List Move :=
  [.call 0 (.createTable "balance" "v1" .int), .deliver 0, .deliver 0, .call 1 (.getTable "balance" "v1")]

theorem writeLastsCreated :
    Keeps .standard one ((start .empty).moves .standard one
      (created ++ .deliver 1 :: [.call 1 (.set 1 "alice" (.int 5))] ++ [.deliver 1]))
      "balance__v1" "alice" (.int 5) := by
  refine (writeLasts .standard one .empty created [.call 1 (.set 1 "alice" (.int 5))] (.deliver 1)
    (.deliver 1) ⟨1, .getTable "balance" "v1", .done, some (table .standard "balance" "v1")⟩
    ⟨1, .set 1 "alice" (.int 5), .done, none⟩ "balance" "v1" "alice" (.int 5) (by decide +kernel)
    rfl ⟨rfl, rfl⟩ rfl ⟨rfl, rfl⟩ (by decide +kernel)).mpr ⟨?_, decodeEncoded rfl⟩
  rintro ⟨who, p, there, -⟩
  rcases who with _ | _ | who <;> cases there

def claimed : List Move :=
  [.call 0 (.createTable "balance" "v1" .int), .deliver 0, .call 1 (.getTable "balance" "v1"), .deliver 1,
    .call 1 (.set 0 "alice" (.int 5)), .deliver 1, .deliver 0, .call 1 (.get 0 "alice"), .deliver 1]

theorem writeLost :
    (((start .empty).moves .standard one claimed).reports.map fun r => (r.client, r.answer)) =
        [(1, .done), (1, .done), (0, .done), (1, .failed (.error (.notFound "entity" "alice")))] ∧
      ((start .empty).trail .standard one claimed).map Command.words =
        [["HSETNX", "__tables__", "balance__v1", "\"Int\""], ["HEXISTS", "__tables__", "balance__v1"],
          ["HSET", "balance__v1", "alice", encodeValue (.int 5)], ["DEL", "balance__v1"],
          ["HGET", "balance__v1", "alice"]] :=
  ⟨rfl, rfl⟩

end Shared
end FeatureStore.Redis
