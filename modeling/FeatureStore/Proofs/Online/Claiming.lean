import FeatureStore.Proofs.Online.Redis

/-!
Tables whose creation fails on a Redis server, in whatever state the server is and whatever it replies.
One request claims the name and another clears the table, and nothing takes the claim back when the
second one is refused: the call has failed, and the table is there.
-/
namespace FeatureStore.Redis

/- What becomes of a command: an error that waits for it, a place in the transaction that is open, or a
run. -/
inductive Received (s : Server) (d : Command) : Reply → Server → Prop where
  | refused {e : ErrorReply} {rest : List (String × ErrorReply)} (waits : s.errors = (d.name, e) :: rest) :
      Received s d (.item (.error e)) { s with errors := rest, received := s.received ++ [d] }
  | queued {commands : List Command} (free : ∀ w ∈ s.errors.head?, w.1 ≠ d.name)
      (opened : s.queued = some commands) :
      Received s d (.item (.status "QUEUED"))
        { s with queued := some (commands ++ [d]), received := s.received ++ [d] }
  | ran (free : ∀ w ∈ s.errors.head?, w.1 ≠ d.name) (alone : s.queued = none) :
      Received s d (.item (s.keyspace.run d).1)
        { s with keyspace := (s.keyspace.run d).2, received := s.received ++ [d] }

theorem executed {s : Server} {d : Command} (plain : Plain d)
    (free : ∀ w ∈ s.errors.head?, w.1 ≠ d.name) :
    Received s d ({ s with received := s.received ++ [d] }.execute d).1
      ({ s with received := s.received ++ [d] }.execute d).2 := by
  obtain ⟨noMulti, noExec⟩ := plain
  obtain ⟨keyspace, queued, errors, received⟩ := s
  cases queued with
  | some commands =>
    cases d with
    | exec => exact absurd rfl noExec
    | _ => exact .queued free rfl
  | none =>
    cases d with
    | multi => exact absurd rfl noMulti
    | _ => exact .ran free rfl

theorem receivedIn (s : Server) {d : Command} (plain : Plain d) :
    Received s d (s.receive d).1 (s.receive d).2 := by
  unfold Server.receive
  rcases waits : s.errors with _ | ⟨⟨name, e⟩, rest⟩
  · have free : ∀ w ∈ s.errors.head?, w.1 ≠ d.name := by simp [waits]
    simpa only [waits] using executed plain free
  · by_cases same : name = d.name
    · subst same
      simp only [if_true, if_neg plain.2]
      exact .refused waits
    · have free : ∀ w ∈ s.errors.head?, w.1 ≠ d.name := by simpa [waits] using same
      simpa only [waits, if_neg same] using executed plain free

section
variable (c : RedisConfig) (feature variant : String) (type : ValueType)

def claim : Command :=
  .hsetnx c.catalogKey (onlineTableKey "" feature variant) type.toJson.text

def clear : Command := .del (onlineTableKey c.scope feature variant)

def granted (name : String) (replies : List Reply) : Except Error Unit :=
  match replies.findSome? Reply.error? with
  | some e => .error (refused "HSETNX" e)
  | none =>
    match (replies.headD (.item .nil)).toBool with
    | .error e => .error (refused "HSETNX" e)
    | .ok created => if created then .ok () else .error (.alreadyExists "online table" name)

def afterClaim : Except Error Unit → Talk (Except Failure (OnlineTable Talk))
  | .error e => .done (.error (.error e))
  | .ok () => .ask [clear c feature variant] fun replies =>
    match replies.findSome? Reply.error? with
    | some e => .done (.error (.error (refused "DEL" e)))
    | none => .done (.ok (table c feature variant))

theorem createTableAsks :
    (createTable c feature variant type).run =
      .ask [claim c feature variant type] fun replies =>
        afterClaim c feature variant (granted (onlineTableKey "" feature variant) replies) := by
  simp only [createTable, sendOne, bind_assoc, sendAllAsks, claim, granted]
  congr 1
  funext replies
  cases replies.findSome? Reply.error? with
  | some e => rfl
  | none =>
    cases (replies.headD (.item .nil)).toBool with
    | error e => rfl
    | ok created =>
      cases created with
      | false => rfl
      | true => exact sendAllAsks "DEL" [clear c feature variant] fun _ => pure (table c feature variant)

theorem creationSends (replies : List (List Reply)) :
    ((createTable c feature variant type).run.replay replies).2 =
      [claim c feature variant type] ::
        match replies.head?.map (granted (onlineTableKey "" feature variant)) with
        | some (.ok ()) => [[clear c feature variant]]
        | _ => [] := by
  rw [createTableAsks]
  rcases replies with _ | ⟨first, rest⟩
  · rfl
  simp only [Dialog.replay, List.head?_cons, Option.map_some]
  cases granted (onlineTableKey "" feature variant) first with
  | error e => rfl
  | ok u =>
    rcases rest with _ | ⟨second, rest⟩
    · rfl
    · simp only [afterClaim, Dialog.replay]
      cases second.findSome? Reply.error? <;> rfl

structure Claims (s : Server) (name : String) : Prop where
  free : ∀ w ∈ s.errors.head?, w.1 ≠ "HSETNX"
  alone : s.queued = none
  new : (s.keyspace.hash c.catalogKey).contains name = false

structure Stranded (s after : Server) (f : Failure) : Prop where
  refused : ∃ e, s.errors.head? = some ("DEL", e) ∧ f = .error (refused "DEL" e)
  listed : after.keyspace.hash c.catalogKey =
    (s.keyspace.hash c.catalogKey).insert (onlineTableKey "" feature variant) type.toJson.text
  -- What an older handle has left in the table is still there.
  others : ∀ key, key ≠ c.catalogKey → after.keyspace.hash key = s.keyspace.hash key
  found : Serves (getTable c feature variant) after.keyspace (.ok (table c feature variant)) after.keyspace
  taken : ∀ again, Serves (createTable c feature variant again) after.keyspace
    (.error (.error (.alreadyExists "online table" (onlineTableKey "" feature variant)))) after.keyspace
  -- Deleting the table that the failed call has made takes the claim back.
  undone : onlineTableKey "" feature variant ≠ "__tables__" →
    ∃ k, Serves (deleteTable c feature variant) after.keyspace (.ok ()) k ∧
      k.hash c.catalogKey = s.keyspace.hash c.catalogKey

variable {c feature variant type}

theorem strandedIn {s after : Server} {e : ErrorReply}
    (new : (s.keyspace.hash c.catalogKey).contains (onlineTableKey "" feature variant) = false)
    (waits : s.errors.head? = some ("DEL", e))
    (claimed : after.keyspace = s.keyspace.put c.catalogKey
      ((s.keyspace.hash c.catalogKey).insert (onlineTableKey "" feature variant) type.toJson.text)) :
    Stranded c feature variant type s after (.error (refused "DEL" e)) := by
  have listed : after.keyspace.hash c.catalogKey =
      (s.keyspace.hash c.catalogKey).insert (onlineTableKey "" feature variant) type.toJson.text := by
    rw [claimed, Keyspace.hashPut, if_pos rfl]
  have held : (after.keyspace.hash c.catalogKey).contains (onlineTableKey "" feature variant) = true := by
    rw [listed, Bindings.contains, Bindings.findInsert, if_pos rfl]
    rfl
  refine ⟨⟨e, waits, rfl⟩, listed, fun key other => ?_, getTableServes c _ feature variant held,
    fun again => createTableTaken c _ feature variant again held, fun ordinary => ?_⟩
  · rw [claimed, Keyspace.hashPut, if_neg other.symm]
  · have served := deleteTableServes c after.keyspace feature variant held
    rw [scopedKey] at served
    refine ⟨_, served, ?_⟩
    rw [relistCatalog ordinary, listed, Bindings.eraseInsertNew _ new]

theorem claimRuns (s : Server) :
    s.keyspace.run (claim c feature variant type) =
      if (s.keyspace.hash c.catalogKey).contains (onlineTableKey "" feature variant) then
        (Keyspace.number false, s.keyspace)
      else (Keyspace.number true, s.keyspace.put c.catalogKey
        ((s.keyspace.hash c.catalogKey).insert (onlineTableKey "" feature variant) type.toJson.text)) := rfl

theorem claimOn (c : RedisConfig) (feature variant : String) (type : ValueType) (s : Server) :
    let name := onlineTableKey "" feature variant
    let (reply, next) := s.receive (claim c feature variant type)
    (¬ Claims c s name ∧ (∃ e, granted name [reply] = .error e) ∧ next.keyspace = s.keyspace) ∨
    (Claims c s name ∧ granted name [reply] = .ok () ∧
      next.queued = none ∧ next.errors = s.errors ∧
      next.keyspace = s.keyspace.put c.catalogKey
        ((s.keyspace.hash c.catalogKey).insert name type.toJson.text)) := by
  intro name
  have took := receivedIn s (d := claim c feature variant type) (by simp [Plain, claim])
  generalize s.receive (claim c feature variant type) = ended at took ⊢
  obtain ⟨reply, next⟩ := ended
  cases took with
  | refused waits =>
    refine .inl ⟨fun claims => ?_, ⟨_, rfl⟩, rfl⟩
    exact claims.free _ (by rw [waits]; rfl) rfl
  | queued free opened =>
    refine .inl ⟨fun claims => ?_, ⟨_, rfl⟩, rfl⟩
    rw [claims.alone] at opened
    cases opened
  | ran free alone =>
    rw [claimRuns]
    cases held : (s.keyspace.hash c.catalogKey).contains name with
    | true =>
      refine .inl ⟨fun claims => ?_, ⟨_, rfl⟩, rfl⟩
      rw [claims.new] at held
      cases held
    | false => exact .inr ⟨⟨free, alone, held⟩, rfl, alone, rfl, rfl⟩

theorem creationOn (c : RedisConfig) (feature variant : String) (type : ValueType) (s : Server) :
    let name := onlineTableKey "" feature variant
    let ended := (onServer (createTable c feature variant type).run).run s
    (¬ Claims c s name ∧ (∃ f, ended.1 = .error f) ∧ ended.2.keyspace = s.keyspace) ∨
    (Claims c s name ∧ (ended.1 = .ok (table c feature variant) ∨
      ∃ e, ended.1 = .error (.error (refused "DEL" e)) ∧ s.errors.head? = some ("DEL", e) ∧
        ended.2.keyspace = s.keyspace.put c.catalogKey
          ((s.keyspace.hash c.catalogKey).insert name type.toJson.text))) := by
  intro name ended
  have begun : ended =
      (onServer (afterClaim c feature variant
        (granted name [(s.receive (claim c feature variant type)).1]))).run
        (s.receive (claim c feature variant type)).2 := by
    simp only [ended, createTableAsks]
    rfl
  have first := claimOn c feature variant type s
  generalize s.receive (claim c feature variant type) = asked at begun first
  obtain ⟨reply, next⟩ := asked
  rcases first with ⟨unclaimed, ⟨e, denied⟩, same⟩ | ⟨claims, granted, alone, waiting, listed⟩
  · rw [begun, denied]
    exact .inl ⟨unclaimed, ⟨_, rfl⟩, same⟩
  · rw [begun, granted]
    refine .inr ⟨claims, ?_⟩
    have second := receivedIn next (d := clear c feature variant) (by simp [Plain, clear])
    have cleared : (onServer (afterClaim c feature variant (.ok ()))).run next =
        (onServer (match [(next.receive (clear c feature variant)).1].findSome? Reply.error? with
          | some e => .done (.error (.error (refused "DEL" e)))
          | none => .done (.ok (table c feature variant)) : Talk (Except Failure (OnlineTable Talk)))).run
          (next.receive (clear c feature variant)).2 := rfl
    rw [cleared]
    generalize next.receive (clear c feature variant) = answered at second ⊢
    obtain ⟨reply, last⟩ := answered
    cases second with
    | refused waits => exact .inr ⟨_, rfl, by rw [← waiting, waits]; rfl, listed⟩
    | queued free opened =>
      rw [alone] at opened
      cases opened
    | ran free alone => exact .inl rfl

/-- A creation that fails changes nothing, unless the server has granted the claim of the name and
refuses the clearing. The claim then stays: the table is found, and the name is taken. -/
theorem failureKeepsClaim (c : RedisConfig) (feature variant : String) (type : ValueType) :
    (∀ replies, ((createTable c feature variant type).run.replay replies).2 =
      [claim c feature variant type] ::
        match replies.head?.map (granted (onlineTableKey "" feature variant)) with
        | some (.ok ()) => [[clear c feature variant]]
        | _ => []) ∧
    ∀ (s after : Server) (f : Failure),
      (onServer (createTable c feature variant type).run).run s = (.error f, after) →
        (¬ Claims c s (onlineTableKey "" feature variant) → after.keyspace = s.keyspace) ∧
        (Claims c s (onlineTableKey "" feature variant) → Stranded c feature variant type s after f) := by
  refine ⟨creationSends c feature variant type, fun s after f failed => ?_⟩
  have ended := creationOn c feature variant type s
  simp only [failed] at ended
  rcases ended with ⟨unclaimed, -, same⟩ | ⟨claims, made | ⟨e, because, waits, listed⟩⟩
  · exact ⟨fun _ => same, fun claims => absurd claims unclaimed⟩
  · cases made
  · cases because
    exact ⟨fun unclaimed => absurd claims unclaimed, fun _ => strandedIn claims.new waits listed⟩

end

def readOnly : ErrorReply := ⟨"READONLY", "You can't write against a read only replica."⟩

def demoted : Server := ⟨.empty, none, [("DEL", readOnly)], []⟩

def halfway : Except Failure (OnlineTable Talk) × Server :=
  (onServer (createTable .standard "balance" "v1" .int).run).run demoted

theorem failureKeepsClaimDemoted :
    Stranded .standard "balance" "v1" .int demoted halfway.2 (.error (refused "DEL" readOnly)) := by
  have claims : Claims .standard demoted "balance__v1" := ⟨by simp [demoted], rfl, rfl⟩
  exact ((failureKeepsClaim .standard "balance" "v1" .int).2 demoted halfway.2 _ rfl).2 claims

theorem failedCreationListed :
    halfway.1.isOk = false ∧
      ((onServer (getTable .standard "balance" "v1").run).run demoted).1 =
        .error (.error (.notFound "online table" "balance__v1")) ∧
      ((onServer (getTable .standard "balance" "v1").run).run halfway.2).1.isOk = true ∧
      ((onServer (createTable .standard "balance" "v1" .int).run).run halfway.2).1 =
        .error (.error (.alreadyExists "online table" "balance__v1")) :=
  ⟨rfl, rfl, rfl, rfl⟩

end FeatureStore.Redis
