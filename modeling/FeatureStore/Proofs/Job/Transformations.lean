import FeatureStore.Job.Registry
import FeatureStore.Proofs.Config
import FeatureStore.Proofs.Job.Copy

/-!
Jobs of transformations on a PostgreSQL server, from the payload to what is seen of the job. The server
answers from a script, in which any statement may fail.
-/
namespace FeatureStore.Postgres

structure Statement where
  sql : String
  error : Refusal → Error

def inOrder : List Statement → Task Talk Unit
  | [] => return ()
  | x :: rest => do
    batch x.sql x.error
    inOrder rest

def Acknowledged (script : List Reply) (place : Nat) : Prop :=
  ∀ state, script[place]? ≠ some (.failed state)

/- What is sent of a plan, and whether all of it succeeds: a failure ends it. -/
inductive Reaches (plan : List Request) (script : List Reply) : List Request → Bool → Prop where
  | all (acknowledged : ∀ i < plan.length, Acknowledged script i) : Reaches plan script plan true
  | upTo {place : Nat} (within : place < plan.length) (before : ∀ i < place, Acknowledged script i)
      (failed : ¬ Acknowledged script place) : Reaches plan script (plan.take (place + 1)) false

theorem acknowledgedFirst {script : List Reply} :
    Acknowledged script 0 ↔ ∀ state, script.headD .done ≠ .failed state := by
  cases script <;> simp [Acknowledged]

theorem acknowledgedNext {script : List Reply} {place : Nat} :
    Acknowledged script (place + 1) ↔ Acknowledged (script.drop 1) place := by
  simp [Acknowledged]

theorem Reaches.next {r : Request} {plan sent : List Request} {script : List Reply} {whole : Bool}
    (first : Acknowledged script 0) (rest : Reaches plan (script.drop 1) sent whole) :
    Reaches (r :: plan) script (r :: sent) whole := by
  have ahead {bound : Nat} (later : ∀ i < bound, Acknowledged (script.drop 1) i) :
      ∀ i < bound + 1, Acknowledged script i := fun i small => by
    cases i with
    | zero => exact first
    | succ i => exact acknowledgedNext.mpr (later i (by omega))
  cases rest with
  | all acknowledged => exact .all (ahead acknowledged)
  | upTo within before failed =>
    exact .upTo (Nat.succ_lt_succ within) (ahead before) fun held => failed (acknowledgedNext.mp held)

theorem Reaches.ahead {plan sent : List Request} {script : List Reply} {whole : Bool}
    (reaches : Reaches plan script sent whole) :
    ∃ n, sent = plan.take n ∧ ∀ i, i + 1 < n → Acknowledged script i := by
  cases reaches with
  | all acknowledged =>
    exact ⟨plan.length, List.take_length.symm, fun i small => acknowledged i (by omega)⟩
  | @upTo place within before failed => exact ⟨place + 1, rfl, fun i small => before i (by omega)⟩

section
variable {α : Type} (pool : Nat) (who : PostgresConfig.Startup) (s : Server)

def Server.took (sql : String) : Server :=
  { s with script := s.script.drop 1, received := s.received ++ [.batch sql] }

theorem connectThen (f : Unit → Task Talk α) :
    (onServer pool who (connect >>= f).run).run s = (onServer pool who (f ()).run).run (s.connect pool who) :=
  rfl

theorem refusedThen (reason : String) (f : Unit → Task Talk α) :
    (onNothing reason (connect >>= f).run).run s =
      (.error (.error (.storage "Pool get error"
        ("Error occurred while creating a new object: " ++ reason))), s) := rfl

theorem failedThen {sql state : String} (failed : s.script.headD .done = .failed state)
    (error : Refusal → Error) (f : Unit → Task Talk α) :
    (onServer pool who (batch sql error >>= f).run).run s =
      (.error (.error (error ⟨state, serverError⟩)), s.took sql) := by
  obtain ⟨script, received, connections, builds⟩ := s
  cases script with
  | nil => cases failed
  | cons reply rest =>
    obtain rfl : reply = .failed state := failed
    rfl

theorem acknowledgedThen {sql : String} (acknowledged : Acknowledged s.script 0) (error : Refusal → Error)
    (f : Unit → Task Talk α) :
    (onServer pool who (batch sql error >>= f).run).run s =
      (onServer pool who (f ()).run).run (s.took sql) := by
  obtain ⟨script, received, connections, builds⟩ := s
  cases script with
  | nil => rfl
  | cons reply rest =>
    cases reply with
    | failed state => exact absurd rfl (acknowledgedFirst.mp acknowledged state)
    | _ => rfl

theorem inOrderReaches (xs : List Statement) :
    let ended := (onServer pool who (inOrder xs).run).run s
    ∃ sent whole, ended.2.received = s.received ++ sent ∧
      Reaches (xs.map fun x => .batch x.sql) s.script sent whole ∧
      if whole then ended.1 = .ok () else ∃ e, ended.1 = .error (.error e) := by
  -- The script moves on with each statement, so that the server differs from step to step.
  induction xs generalizing s with
  | nil => exact ⟨[], true, (List.append_nil _).symm, .all (by simp), rfl⟩
  | cons x rest ih =>
    by_cases acknowledged : Acknowledged s.script 0
    · obtain ⟨sent, whole, received, reaches, answer⟩ := ih (s.took x.sql)
      rw [inOrder, acknowledgedThen pool who s acknowledged]
      refine ⟨.batch x.sql :: sent, whole, ?_, reaches.next acknowledged, answer⟩
      simpa [Server.took] using received
    · obtain ⟨state, failed⟩ : ∃ state, s.script.headD .done = .failed state := by
        simpa [acknowledgedFirst] using acknowledged
      rw [inOrder, failedThen pool who s failed]
      exact ⟨[.batch x.sql], false, rfl, .upTo (Nat.succ_pos _) (by simp) acknowledged, _, rfl⟩

end

structure Permitted (c : TransformationConfig) (query : String) : Prop where
  type : c.type = .sql
  target : c.target.type = .transformation
  rendered : c.render quoteIdent = .ok query

theorem permittedIff {c : TransformationConfig} {query : String} :
    checkTransformation c = .ok query ↔ Permitted c query := by
  by_cases type : c.type = .sql
  · by_cases target : c.target.type = .transformation
    · have checked : checkTransformation c = c.render quoteIdent := by
        simp [checkTransformation, ResourceId.checkType, type, target, bind, Except.bind]
      rw [checked]
      exact ⟨fun rendered => ⟨type, target, rendered⟩, fun permitted => permitted.rendered⟩
    · refine ⟨fun checked => ?_, fun permitted => absurd permitted.target target⟩
      simp [checkTransformation, ResourceId.checkType, type, target, bind, Except.bind] at checked
  · refine ⟨fun checked => ?_, fun permitted => absurd permitted.type type⟩
    simp [checkTransformation, type, bind, Except.bind] at checked

def plan (c : TransformationJob) (query : String) : List Request :=
  let target := quoteIdent (tableName c.transformation.target)
  let create := Request.batch ("CREATE TABLE " ++ target ++ " AS " ++ query)
  if c.isUpdate then
    [.batch "START TRANSACTION", .batch ("DROP TABLE IF EXISTS " ++ target), create, .batch "COMMIT"]
  else [create]

section
variable {c : TransformationJob} {query : String}

theorem commitLast : .batch "COMMIT" ∉ (plan c query).take 3 := by
  -- A query may hold any text, so the statements are told apart by how they begin.
  have create (rest : String) : "COMMIT" ≠ "CREATE TABLE " ++ rest := fun same => by
    simpa using congrArg (fun s => s.toList.take 2) same
  have drop (rest : String) : "COMMIT" ≠ "DROP TABLE IF EXISTS " ++ rest := fun same => by
    simpa using congrArg (fun s => s.toList.take 1) same
  rw [plan]
  split
  · simp [drop, create, String.append_assoc]
  · simp [create, String.append_assoc]

theorem Reaches.uncommitted {script : List Reply} {sent : List Request} {whole : Bool}
    (reaches : Reaches (plan c query) script sent whole) {i : Nat} (inside : i < 3)
    (failed : ¬ Acknowledged script i) : .batch "COMMIT" ∉ sent := by
  obtain ⟨n, rfl, ahead⟩ := reaches.ahead
  have stopped : n ≤ 3 := by
    by_cases more : i + 1 < n
    · exact absurd (ahead i more) failed
    · omega
  exact fun mem => commitLast (List.take_subset_take_left _ stopped mem)

theorem bodyChecked {checked : Except Error String} (same : checkTransformation c.transformation = checked) :
    TransformationJob.body store c = Task.ofExcept checked >>= fun query =>
      if c.isUpdate then
        replaceTable (tableName c.transformation.target)
          (createTableAs (tableName c.transformation.target) query) "transformation table"
      else
        executeBatch (createTableAs (tableName c.transformation.target) query) "transformation table"
          c.transformation.target.text := by
  subst same
  cases update : c.isUpdate <;> simp only [TransformationJob.body, update] <;> rfl

theorem bodySends (permitted : Permitted c.transformation query) :
    ∃ xs : List Statement, (xs.map fun x => .batch x.sql) = plan c query ∧
      TransformationJob.body store c = connect >>= fun _ => inOrder xs := by
  have last (sql : String) (error : Refusal → Error) : inOrder [⟨sql, error⟩] = batch sql error :=
    bind_pure _
  rw [bodyChecked (permittedIff.mpr permitted), Task.ofExcept, pure_bind]
  by_cases update : c.isUpdate = true
  · let inside (context : String) :=
      tableError context "transformation table" (tableName c.transformation.target)
    refine ⟨[⟨_, plainError "Begin transaction error"⟩, ⟨_, inside "Drop table error"⟩,
      ⟨_, inside "Create table error"⟩, ⟨_, plainError "Commit error"⟩], (if_pos update).symm, ?_⟩
    rw [if_pos update, inOrder, inOrder, inOrder, last]
    rfl
  · refine ⟨[⟨_, tableError "Statement error" "transformation table" c.transformation.target.text⟩],
      (if_neg update).symm, ?_⟩
    rw [if_neg update, last]
    rfl

theorem bodyRefused (refused : ¬ ∃ query, Permitted c.transformation query) :
    ∃ e, TransformationJob.body store c = Task.fail e := by
  cases checked : checkTransformation c.transformation with
  | ok query => exact absurd ⟨query, permittedIff.mp checked⟩ refused
  | error e => exact ⟨e, bodyChecked checked⟩

end

end FeatureStore.Postgres

namespace FeatureStore.TransformationJob
open Postgres (Permitted Reaches Acknowledged)
variable {c : TransformationJob} {payload : SerializedConfig} {kind : JobKind} {runner : Runner (StateM Host)}
  {before made : Host}

def onPool (pool : Nat) (who : PostgresConfig.Startup) (c : TransformationJob) : Task (StateM Host) Unit :=
  Task.lift (Host.onPostgres pool who) (body Postgres.store c)

theorem builtByFactory {config : SerializedConfig} {p : Provider (StateM Host)} {h after : Host}
    (built : (Host.postgresFactory config).on h = (.ok p, after)) :
    ∃ pool who, p = (Postgres.provider config).lift (Host.onPostgres pool who) := by
  obtain ⟨_, _, _, built⟩ := Task.onBindOk built
  obtain ⟨who, _, _, built⟩ := Task.onBindOk built
  obtain ⟨h, _, _, built⟩ := Task.onBindOk built
  obtain ⟨_, _, _, built⟩ := Task.onBindOk built
  cases built
  exact ⟨h.pools, who, rfl⟩

theorem madeOnPostgres (named : kind.name = JobKind.createTransformation.name)
    (read : Config.decode TransformationJob payload = .ok c)
    (postgres : c.offlineType.name = ProviderType.postgresOffline.name)
    (created : (RunnerRegistry.withDefaults.create Host.providers kind payload).on before =
      (.ok runner, made)) :
    ∃ pool who, runner = ⟨JobKind.createTransformation.name, onPool pool who c⟩ := by
  have registered : RunnerRegistry.withDefaults.find? JobKind.createTransformation.name =
      some (factory (m := StateM Host)) := rfl
  have bound : Host.providers.find? ProviderType.postgresOffline.name = some Host.postgresFactory := rfl
  simp only [RunnerRegistry.create, named, registered, factory, read] at created
  obtain ⟨_, _, decoded, created⟩ := Task.onBindOk created
  cases decoded
  obtain ⟨offline, _, resolved, created⟩ := Task.onBindOk created
  cases created
  obtain ⟨p, _, got, served⟩ := Task.onBindOk resolved
  rw [ProviderRegistry.get, postgres, bound] at got
  obtain ⟨pool, who, rfl⟩ := builtByFactory got
  cases served
  refine ⟨pool, who, congrArg (Runner.mk _) ?_⟩
  rw [onPool]
  cases update : c.isUpdate <;> simp only [body, update] <;> rfl

theorem runOn {σ : Type} (r : Runner (StateM σ)) (s : σ) :
    r.run.run s = (⟨r.job, (r.outcome.run s).1.status, false⟩, (r.outcome.run s).2) := rfl

theorem runSucceeded {σ : Type} {r : Runner (StateM σ)} {s : σ} (ended : (r.body.on s).1 = .ok ()) :
    r.run.run s = (⟨r.job, .succeeded, false⟩, (r.body.on s).2) := by
  rw [runOn, r.outcomeOn, ended]
  rfl

theorem runFailed {σ : Type} {r : Runner (StateM σ)} {s : σ} {e : Error}
    (ended : (r.body.on s).1 = .error (.error e)) :
    r.run.run s = (⟨r.job, .failed e.message, false⟩, (r.body.on s).2) := by
  rw [runOn, r.outcomeOn, ended]
  rfl

section
variable (pool : Nat) (who : PostgresConfig.Startup) {h : Host}

theorem onFault {α : Type} {reason : String} (fault : h.postgresFault = some reason)
    (t : Task Postgres.Talk α) :
    (Task.lift (Host.onPostgres pool who) t).on h =
      (((Postgres.onNothing reason t.run).run h.postgres).1,
        { h with postgres := ((Postgres.onNothing reason t.run).run h.postgres).2 }) := by
  obtain ⟨memories, locals, redis, redisFault, postgres, postgresFault, pools⟩ := h
  cases fault
  rfl

theorem onReachable {α : Type} (reachable : h.postgresFault = none) (t : Task Postgres.Talk α) :
    (Task.lift (Host.onPostgres pool who) t).on h =
      (((Postgres.onServer pool who t.run).run h.postgres).1,
        { h with postgres := ((Postgres.onServer pool who t.run).run h.postgres).2 }) := by
  obtain ⟨memories, locals, redis, redisFault, postgres, postgresFault, pools⟩ := h
  cases reachable
  rfl

theorem bodyUnsent (blocked : ¬ ((∃ query, Permitted c.transformation query) ∧ h.postgresFault = none)) :
    ((onPool pool who c).on h).2.postgres.received = h.postgres.received ∧
      ∃ e, ((onPool pool who c).on h).1 = .error (.error e) := by
  by_cases refused : ∃ query, Permitted c.transformation query
  · obtain ⟨query, permitted⟩ := refused
    obtain ⟨xs, -, sends⟩ := Postgres.bodySends permitted
    obtain ⟨reason, fault⟩ := Option.ne_none_iff_exists'.mp fun reachable =>
      blocked ⟨⟨query, permitted⟩, reachable⟩
    rw [onPool, sends, onFault pool who fault, Postgres.refusedThen]
    exact ⟨rfl, _, rfl⟩
  · obtain ⟨e, fails⟩ := Postgres.bodyRefused refused
    rw [onPool, fails]
    rcases Option.eq_none_or_eq_some h.postgresFault with reachable | ⟨reason, fault⟩
    · rw [onReachable pool who reachable]
      exact ⟨rfl, e, rfl⟩
    · rw [onFault pool who fault]
      exact ⟨rfl, e, rfl⟩

theorem bodyReaches {query : String} (permitted : Permitted c.transformation query)
    (reachable : h.postgresFault = none) :
    ∃ sent whole, ((onPool pool who c).on h).2.postgres.received = h.postgres.received ++ sent ∧
      Reaches (Postgres.plan c query) h.postgres.script sent whole ∧
      if whole then ((onPool pool who c).on h).1 = .ok ()
      else ∃ e, ((onPool pool who c).on h).1 = .error (.error e) := by
  obtain ⟨xs, listed, sends⟩ := Postgres.bodySends permitted
  rw [onPool, sends, onReachable pool who reachable, Postgres.connectThen, ← listed]
  have connected : (h.postgres.connect pool who).received = h.postgres.received ∧
      (h.postgres.connect pool who).script = h.postgres.script := by
    rw [Postgres.Server.connect]
    split <;> exact ⟨rfl, rfl⟩
  have sent := Postgres.inOrderReaches pool who (h.postgres.connect pool who) xs
  rwa [connected.1, connected.2] at sent

end

/-- Once it runs, a job sends what makes the table only for a transformation that is permitted: one
statement after another, each when the one before was acknowledged. It succeeds if and only if all are
sent and acknowledged, and otherwise fails; after a failure nothing is committed. -/
theorem sendsWhenPermitted (named : kind.name = JobKind.createTransformation.name)
    (read : Config.decode TransformationJob payload = .ok c)
    (postgres : c.offlineType.name = ProviderType.postgresOffline.name)
    (created : (RunnerRegistry.withDefaults.create Host.providers kind payload).on before =
      (.ok runner, made)) (h : Host) :
    let (w, after) := runner.run.run h
    ∃ sent, after.postgres.received = h.postgres.received ++ sent ∧
      w.job = "CREATE_TRANSFORMATION" ∧ w.pending = false ∧
      (sent ≠ [] → h.postgresFault = none ∧ ∃ query, Permitted c.transformation query) ∧
      (∀ query, Permitted c.transformation query → h.postgresFault = none →
        ∃ whole, Reaches (Postgres.plan c query) h.postgres.script sent whole) ∧
      (w.status = .succeeded ↔ ∃ query, Permitted c.transformation query ∧ h.postgresFault = none ∧
        sent = Postgres.plan c query ∧
        ∀ i < (Postgres.plan c query).length, Acknowledged h.postgres.script i) ∧
      (w.status = .succeeded ∨ ∃ message, w.status = .failed message) ∧
      ((∃ i < 3, ¬ Acknowledged h.postgres.script i) → .batch "COMMIT" ∉ sent) := by
  obtain ⟨pool, who, rfl⟩ := madeOnPostgres named read postgres created
  by_cases open? : (∃ query, Permitted c.transformation query) ∧ h.postgresFault = none
  · obtain ⟨⟨query, permitted⟩, reachable⟩ := open?
    have only {other : String} (also : Permitted c.transformation other) : query = other :=
      Except.ok.inj (permitted.rendered.symm.trans also.rendered)
    obtain ⟨sent, whole, received, reaches, ended⟩ := bodyReaches pool who permitted reachable
    have sends (other : String) (also : Permitted c.transformation other) (_ : h.postgresFault = none) :
        ∃ whole, Reaches (Postgres.plan c other) h.postgres.script sent whole :=
      only also ▸ ⟨whole, reaches⟩
    have uncommitted : (∃ i < 3, ¬ Acknowledged h.postgres.script i) → .batch "COMMIT" ∉ sent := by
      rintro ⟨i, inside, failed⟩
      exact reaches.uncommitted inside failed
    cases reaches with
    | all acknowledged =>
      rw [if_pos rfl] at ended
      rw [runSucceeded ended]
      exact ⟨_, received, rfl, rfl, fun _ => ⟨reachable, query, permitted⟩, sends,
        iff_of_true rfl ⟨query, permitted, reachable, rfl, acknowledged⟩, .inl rfl, uncommitted⟩
    | upTo within before failed =>
      obtain ⟨e, ended⟩ := ended
      rw [runFailed ended]
      refine ⟨_, received, rfl, rfl, fun _ => ⟨reachable, query, permitted⟩, sends, ?_, .inr ⟨_, rfl⟩,
        uncommitted⟩
      refine iff_of_false JobStatus.noConfusion ?_
      rintro ⟨other, also, -, -, acknowledged⟩
      exact failed (acknowledged _ (only also ▸ within))
  · obtain ⟨unsent, e, failed⟩ := bodyUnsent pool who open?
    rw [runFailed failed]
    refine ⟨[], by simpa using unsent, rfl, rfl, fun sent => absurd rfl sent, ?_, ?_, .inr ⟨_, rfl⟩,
      by simp⟩
    · exact fun query permitted reachable => absurd ⟨⟨query, permitted⟩, reachable⟩ open?
    · refine iff_of_false JobStatus.noConfusion ?_
      rintro ⟨query, permitted, reachable, -⟩
      exact open? ⟨⟨query, permitted⟩, reachable⟩

theorem sendsWhenPermittedTwice :
    let config : PostgresConfig := .ofUrl "postgres://db/store"
    let c : TransformationJob := ⟨.postgresOffline, Config.encode config,
      ⟨.sql, ⟨"spend", "v1", .transformation⟩, "SELECT 1", []⟩, true⟩
    let server (script : List Postgres.Reply) : Host := { Host.start none none with
      postgres := { Postgres.Server.empty with script := script } }
    ∃ runner made, (RunnerRegistry.withDefaults.create Host.providers (.other "CREATE_TRANSFORMATION")
        (Config.encode c)).on (Host.start none none) = (.ok runner, made) ∧
      ((runner.run.run (server [])).2.postgres.received = Postgres.plan c "SELECT 1" ∧
        (runner.run.run (server [])).1.status = .succeeded) ∧
      (runner.run.run (server [.done, .failed "55P03"])).2.postgres.received =
        (Postgres.plan c "SELECT 1").take 2 ∧
      ∃ message, (runner.run.run (server [.done, .failed "55P03"])).1.status = .failed message := by
  intro config c server
  have startable : config.startup.isOk = true := by decide +kernel
  have read : Config.decode TransformationJob (Config.encode c) = .ok c := c.readBack
  have permitted : Permitted c.transformation "SELECT 1" := by
    have plain : TransformationConfig.placeholder? ['S', 'E', 'L', 'E', 'C', 'T', ' ', '1'] = none := rfl
    exact ⟨rfl, rfl, by simp [c, TransformationConfig.render, TransformationConfig.substitute, bind,
      Except.bind, plain]⟩
  have created : ∃ runner made, (RunnerRegistry.withDefaults.create Host.providers
      (.other "CREATE_TRANSFORMATION") (Config.encode c)).on (Host.start none none) = (.ok runner, made) := by
    obtain ⟨who, started⟩ : ∃ who, config.startup = .ok who := by
      cases started : config.startup with
      | ok who => exact ⟨who, rfl⟩
      | error e =>
        rw [started] at startable
        cases startable
    have registered : RunnerRegistry.withDefaults.find? (JobKind.other "CREATE_TRANSFORMATION").name =
      some (factory (m := StateM Host)) := rfl
    have bound : Host.providers.find? c.offlineType.name = some Host.postgresFactory := rfl
    have decoded : Config.decode PostgresConfig c.offlineConfig = .ok config :=
      Config.formatRead PostgresConfig.format (by decide) config
    simp only [RunnerRegistry.create, registered, factory, read, ProviderRegistry.offlineStore,
      ProviderRegistry.get, bound, Host.postgresFactory, decoded, started, Task.onBind, Task.onExcept,
      Task.mapErrorOk]
    exact ⟨_, _, rfl⟩
  obtain ⟨runner, made, created⟩ := created
  have law (script : List Postgres.Reply) := sendsWhenPermitted rfl read rfl created (server script)
  have free (i : Nat) : Acknowledged [] i := fun state held => by cases held
  have refused : ¬ Acknowledged [.done, .failed "55P03"] 1 := fun held => held _ rfl
  refine ⟨runner, made, created, ?_, ?_⟩
  · obtain ⟨sent, received, -, -, -, reach, seen, -⟩ := law []
    obtain ⟨whole, reaches⟩ := reach _ permitted rfl
    obtain rfl : sent = Postgres.plan c "SELECT 1" := by
      cases reaches with
      | all acknowledged => rfl
      | upTo within before failed => exact absurd (free _) failed
    exact ⟨received, seen.mpr ⟨_, permitted, rfl, rfl, fun i _ => free i⟩⟩
  · obtain ⟨sent, received, -, -, -, reach, seen, ends, -⟩ := law [.done, .failed "55P03"]
    obtain ⟨whole, reaches⟩ := reach _ permitted rfl
    have failed : ¬ ∀ i < 4, Acknowledged [.done, .failed "55P03"] i :=
      fun all => refused (all 1 (by decide))
    obtain rfl : sent = (Postgres.plan c "SELECT 1").take 2 := by
      cases reaches with
      | all acknowledged => exact absurd acknowledged failed
      | @upTo place within before stopped =>
        match place with
        | 0 => exact absurd (fun state held => by cases held) stopped
        | 1 => rfl
        | _ + 2 => exact absurd (before 1 (by omega)) refused
    refine ⟨received, ends.resolve_left fun succeeded => ?_⟩
    obtain ⟨other, also, -, -, acknowledged⟩ := seen.mp succeeded
    exact failed acknowledged

end FeatureStore.TransformationJob
