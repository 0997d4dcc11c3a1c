import FeatureStore.Proofs.Offline.Answers
import FeatureStore.Proofs.Offline.Targets

/-!
Calls of the PostgreSQL store that look for tables before they make one. What the catalog says about one
table lets a call go on or stops it; a call that needs several tables stops at the first that does,
having asked for no table behind it. Nothing is assumed about the replies.
-/
namespace FeatureStore.Postgres
variable {α β : Type}

def question (table : String) : List Request := [.connection, .query tableTypeQuery [.text table]]

/- How the search for a table stops a call: with a failure and the replies that are left, or with
neither while it waits; and what it has sent until then. -/
inductive Stops (table kind id : String) : List Reply → Option (Failure × List Reply) → List Request → Prop where
  | waiting : Stops table kind id [] none [.connection]
  | refused (reason : String) (rest : List Reply) :
      Stops table kind id (.refused reason :: rest)
        (some (.error (.storage "Pool get error"
          ("Error occurred while creating a new object: " ++ reason)), rest)) [.connection]
  | unanswered {first : Reply} (connected : met .connection first = true) :
      Stops table kind id [first] none (question table)
  | failed {first : Reply} (connected : met .connection first = true) (state : String) (rest : List Reply) :
      Stops table kind id (first :: .failed state :: rest)
        (some (.error (.storage "Catalog query error" serverError), rest)) (question table)
  -- More rows than one for a name are a failure of the query.
  | crowded {first reply : Reply} (connected : met .connection first = true)
      (many : 1 < (rowsOf reply).length) (rest : List Reply) :
      Stops table kind id (first :: reply :: rest)
        (some (.error (.storage "Catalog query error" rowCountError), rest)) (question table)
  | absent {first reply : Reply} (connected : met .connection first = true)
      (answered : ∀ state, reply ≠ .failed state) (none : rowsOf reply = []) (rest : List Reply) :
      Stops table kind id (first :: reply :: rest) (some (.error (.notFound kind id), rest)) (question table)
  -- A row without a text in front is nothing that the catalog has.
  | unreadable {first reply : Reply} {row : List Cell} (connected : met .connection first = true)
      (one : rowsOf reply = [row]) (unnamed : nameOf row = none) (rest : List Reply) :
      Stops table kind id (first :: reply :: rest) (some (.panic, rest)) (question table)

def halted (ended : Option (Failure × List Reply)) (sent : List Request) : Heard α :=
  (ended.map fun e => (.error e.1, e.2), sent)

section One
variable {table kind id : String} {replies : List Reply}

theorem heardConnected {first : Reply} (connected : met .connection first = true) (f : Unit → Task Talk α)
    (rest : List Reply) : heard (connect >>= f) (first :: rest) =
      ((heard (f ()) rest).1, .connection :: (heard (f ()) rest).2) := by
  cases first with
  | refused reason => cases connected
  | _ => rfl

theorem requireListed (listed : Listed replies) :
    heard (requireTable table kind id) replies = (some (.ok (), replies.drop 2), question table) := by
  obtain ⟨first, reply, rest, row, rfl, connected, one, named⟩ := listed
  obtain ⟨name, read⟩ := Option.isSome_iff_exists.mp named
  have text : row[0]? = some (.text (some name)) := by
    rcases row with _ | ⟨cell, cells⟩
    · cases read
    · cases cell <;> simp_all [nameOf, Cell.asText]
  simp only [requireTable, tableType, bind_assoc, queryOptional]
  rw [heardConnected connected, heardAskThen, toldAnswered (by rintro state rfl; cases one), one]
  simp only [Task.mapErrorOk, firstName text, pure_bind]
  rfl

theorem requireStops {ended : Option (Failure × List Reply)} {sent : List Request}
    (stops : Stops table kind id replies ended sent) :
    heard (requireTable table kind id) replies = halted ended sent := by
  simp only [requireTable, tableType, bind_assoc, queryOptional]
  cases stops with
  | waiting => rfl
  | refused reason rest => rfl
  | unanswered connected =>
    rw [heardConnected connected]
    rfl
  | failed connected state rest =>
    rw [heardConnected connected, heardAskThen]
    rfl
  | @crowded first reply connected many rest =>
    rw [heardConnected connected, heardAskThen,
      toldAnswered (by rintro state rfl; simp [rowsOf] at many)]
    rcases found : rowsOf reply with _ | ⟨one, _ | ⟨other, more⟩⟩
    · simp [found] at many
    · simp [found] at many
    · rfl
  | absent connected answered none rest =>
    rw [heardConnected connected, heardAskThen, toldAnswered answered, none]
    rfl
  | @unreadable first reply row connected one unnamed rest =>
    rw [heardConnected connected, heardAskThen, toldAnswered (by rintro state rfl; cases one), one]
    have stops : firstCell row Cell.asText = (throw .panic : Task Talk String) := by
      rcases row with _ | ⟨cell, cells⟩
      · rfl
      · have unread : cell.asText = Option.none := unnamed
        simp [firstCell, readCell, unread]
    simp only [Task.mapErrorOk, stops]
    rfl

theorem listedOrStops (table kind id : String) (replies : List Reply) :
    Listed replies ∨ ∃ ended sent, Stops table kind id replies ended sent := by
  rcases replies with _ | ⟨first, _ | ⟨reply, rest⟩⟩
  · exact .inr ⟨_, _, .waiting⟩
  · by_cases connected : met .connection first = true
    · exact .inr ⟨_, _, .unanswered connected⟩
    · cases first <;> first | exact .inr ⟨_, _, .refused _ _⟩ | simp [met] at connected
  · by_cases connected : met .connection first = true
    · by_cases failed : ∃ state, reply = .failed state
      · obtain ⟨state, rfl⟩ := failed
        exact .inr ⟨_, _, .failed connected state rest⟩
      rcases found : rowsOf reply with _ | ⟨row, _ | ⟨other, more⟩⟩
      · exact .inr ⟨_, _, .absent connected (fun state same => failed ⟨state, same⟩) found rest⟩
      · rcases named : nameOf row with _ | name
        · exact .inr ⟨_, _, .unreadable connected found named rest⟩
        · exact .inl ⟨first, reply, rest, row, rfl, connected, found, by rw [named]; rfl⟩
      · exact .inr ⟨_, _, .crowded connected (by simp [found]) rest⟩
    · cases first <;> first | exact .inr ⟨_, _, .refused _ _⟩ | simp [met] at connected

end One

def ListedUpTo (count : Nat) (replies : List Reply) : Prop :=
  ∀ i < count, Listed (replies.drop (2 * i))

section Several
variable {replies : List Reply} {before ids : List ResourceId} {id : ResourceId}

theorem listedFirst {count : Nat} :
    ListedUpTo (count + 1) replies ↔ Listed replies ∧ ListedUpTo count (replies.drop 2) := by
  constructor
  · refine fun listed => ⟨by simpa using listed 0 (by omega), fun i small => ?_⟩
    have behind := listed (i + 1) (by omega)
    rwa [Nat.mul_succ, Nat.add_comm, ← List.drop_drop] at behind
  · rintro ⟨first, behind⟩ i small
    cases i with
    | zero => simpa using first
    | succ i =>
      rw [Nat.mul_succ, Nat.add_comm, ← List.drop_drop]
      exact behind i (by omega)

theorem listedAhead (listed : ListedUpTo before.length replies) (after : List ResourceId)
    (f : Unit → Task Talk α) :
    heard (requireResources (before ++ after) >>= f) replies =
      ((heard (requireResources after >>= f) (replies.drop (2 * before.length))).1,
        Plan.needing before ++ (heard (requireResources after >>= f) (replies.drop (2 * before.length))).2) := by
  induction before generalizing replies with
  | nil => rfl
  | cons id rest ih =>
    obtain ⟨first, behind⟩ := listedFirst.mp listed
    simp only [List.cons_append, requireResources, bind_assoc]
    rw [heardBind, requireListed first, Heard.andThen, ih behind, List.drop_drop, List.length_cons,
      Nat.mul_succ, Nat.add_comm]
    simp [Plan.needing, question]

theorem heardAll (listed : ListedUpTo ids.length replies) (f : Unit → Task Talk α) :
    heard (requireResources ids >>= f) replies =
      ((heard (f ()) (replies.drop (2 * ids.length))).1,
        Plan.needing ids ++ (heard (f ()) (replies.drop (2 * ids.length))).2) := by
  have all := listedAhead listed [] f
  simpa only [List.append_nil, requireResources, pure_bind] using all

theorem heardUpTo {ended : Option (Failure × List Reply)} {sent : List Request}
    (listed : ListedUpTo before.length replies)
    (stops : Stops (tableName id) "resource table" id.text (replies.drop (2 * before.length)) ended sent)
    (after : List ResourceId) (f : Unit → Task Talk α) :
    heard (requireResources (before ++ id :: after) >>= f) replies =
      halted ended (Plan.needing before ++ sent) := by
  rw [listedAhead listed, requireResources, bind_assoc, heardBind, requireStops stops]
  cases ended <;> rfl

theorem allOrFirst (ids : List ResourceId) (replies : List Reply) :
    ListedUpTo ids.length replies ∨ ∃ before id after ended sent, ids = before ++ id :: after ∧
      ListedUpTo before.length replies ∧
      Stops (tableName id) "resource table" id.text (replies.drop (2 * before.length)) ended sent := by
  induction ids generalizing replies with
  | nil => exact .inl fun i small => absurd small (Nat.not_lt_zero i)
  | cons id rest ih =>
    rcases listedOrStops (tableName id) "resource table" id.text replies with first | ⟨ended, sent, stops⟩
    · rcases ih (replies.drop 2) with behind | ⟨before, missing, after, ended, sent, rfl, listed, stops⟩
      · exact .inl (listedFirst.mpr ⟨first, behind⟩)
      · refine .inr ⟨id :: before, missing, after, ended, sent, rfl, listedFirst.mpr ⟨first, listed⟩, ?_⟩
        rwa [List.drop_drop, Nat.add_comm, ← Nat.mul_succ] at stops
    · exact .inr ⟨[], id, rest, ended, sent, rfl, fun i small => absurd small (Nat.not_lt_zero i), stops⟩

end Several

def making (update : Bool) (table sql : String) : List Request :=
  if update then (Plan.replacing [] table sql).requests else [.connection, .batch sql]

def make (update : Bool) (table sql kind id : String) : Task Talk Unit :=
  if update then replaceTable table sql kind else executeBatch sql kind id

def AnyReply (r : Request) : Prop := ∀ reply, Typed (r, reply)

theorem Pursues.follows {g : Given} {plan : List Request} {t : Task Talk α} {replies : List Reply}
    (pursues : Pursues g plan t replies) (sends : Sends AnyReply t) : Follows g plan replies (heard t replies) :=
  pursues fun e mem => sends replies e.1 (List.of_mem_zip mem).1 e.2

theorem makeFollows (g : Given) (update : Bool) (table sql kind id : String) (replies : List Reply) :
    Follows g (making update table sql) replies (heard (make update table sql kind id) replies) := by
  have connected : Sends AnyReply connect := .connect fun _ => trivial
  have ran (sql : String) (error : Refusal → Error) : Sends AnyReply (batch sql error) :=
    .ask (fun _ => trivial) _ _
  cases update with
  | false => exact (executeBatchPursues sql kind id replies).follows (connected.bind fun _ => ran _ _)
  | true =>
    exact (replacePursues table sql kind replies).follows <| connected.bind fun _ => (ran _ _).bind fun _ =>
      (ran _ _).bind fun _ => (ran _ _).bind fun _ => ran _ _

end FeatureStore.Postgres
