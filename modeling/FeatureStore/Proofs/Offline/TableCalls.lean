import FeatureStore.Proofs.Offline.Transaction
import FeatureStore.Proofs.Task

/-!
The calls that make, replace and drop tables in a transaction, each with its list of requests.
-/
namespace FeatureStore.Postgres
variable {α β : Type} {g : Given}

theorem toldAnswered {read : Reply → Except Refusal α} {error : Refusal → Error} {reply : Reply}
    (answered : ∀ state, reply ≠ .failed state) :
    toldBy read error reply = (read reply).mapError error := by
  cases reply with
  | failed state => exact absurd rfl (answered state)
  | _ => rfl

theorem metQuery {sql : String} {params : List Param} {reply : Reply} :
    met (.query sql params) reply = true ↔ ∀ state, reply ≠ .failed state := by
  cases reply <;> simp [met]

theorem firstName {row : List Cell} {name : String} (first : row[0]? = some (.text (some name))) :
    firstCell row Cell.asText = pure name := by
  simp [firstCell, readCell, first, Cell.asText]

theorem Pursues.rows {plan : List Request} {sql : String} {params : List Param}
    {read : Reply → Except Refusal α} {error : Refusal → Error} {f : α → Task Talk β}
    {replies : List Reply}
    (goes : ∀ reply rest, replies = reply :: rest → Typed (.query sql params, reply) →
      (∃ a, read reply = .ok a ∧ Suits g (.query sql params) reply ∧ Pursues g plan (f a) rest) ∨
      ¬ Suits g (.query sql params) reply ∧
        ((∃ refusal, read reply = .error refusal) ∨ ∃ a e, read reply = .ok a ∧ f a = Task.fail e)) :
    Pursues g (.query sql params :: plan) (ask (.query sql params) read error >>= f) replies := by
  refine .request fun reply rest start typed => ?_
  by_cases failed : ∃ state, reply = .failed state
  · obtain ⟨state, rfl⟩ := failed
    exact .inr ⟨fun w => metQuery.mp w.1 state rfl, _, heardAskThen ..⟩
  have answered : ∀ state, reply ≠ .failed state := fun state same => failed ⟨state, same⟩
  have told : toldBy read error reply = (read reply).mapError error := toldAnswered answered
  rcases goes reply rest start typed with ⟨a, readOk, suits, later⟩ | ⟨unsuited, refused⟩
  · exact .inl ⟨a, by rw [told, readOk]; rfl, ⟨metQuery.mpr answered, suits⟩, later⟩
  · refine .inr ⟨fun w => unsuited w.2, ?_⟩
    rw [heardAskThen, told]
    rcases refused with ⟨refusal, readError⟩ | ⟨a, e, readOk, fails⟩
    · exact ⟨_, by rw [readError]; rfl⟩
    · have stops : heard (f a) rest = (some (.error (.error e), rest), []) := by rw [fails]; rfl
      refine ⟨e, ?_⟩
      rw [readOk]
      show ((heard (f a) rest).1, _ :: (heard (f a) rest).2) = _
      rw [stops]

theorem requirePursues (table kind id : String) (replies : List Reply) :
    Pursues g [.connection, .query tableTypeQuery [.text table]] (requireTable table kind id) replies := by
  obtain ⟨⟨notCurrent, notDelete, -⟩, -⟩ := queriesApart
  simp only [requireTable, tableType, bind_assoc, queryOptional]
  refine (connectPursues g replies).bind fun _ _ _ => .rows fun reply rest _ typed => ?_
  rcases found : rowsOf reply with _ | ⟨row, _ | ⟨another, more⟩⟩
  · exact .inr ⟨by simp [Suits, found], .inr ⟨none, _, by simp, rfl⟩⟩
  · obtain ⟨name, first⟩ := typed (.inl rfl) row (by simp [found])
    refine .inl ⟨some row, by simp, by simp [Suits, found, notCurrent, notDelete], ?_⟩
    simp only [firstName first, pure_bind]
    exact fun _ => .through _ _
  · exact .inr ⟨by simp [Suits, found], .inl ⟨_, rfl⟩⟩

def requireNew (mat : MaterializationId) : Task Talk Unit := do
  let existing ← queryOptional currentBuildQuery [.text mat.text]
    (tableError "Catalog query error" "materialization" mat.text)
  if existing.isSome then Task.fail (.alreadyExists "materialization" mat.text)

def takeBuilds (mat : MaterializationId) : Task Talk (List (List Cell)) := do
  let builds ← query deleteBuilds [.text mat.text]
    (tableError "Catalog delete error" "materialization" mat.text)
  if builds.isEmpty then Task.fail (.notFound "materialization" mat.text)
  return builds

theorem newPursues (mat : MaterializationId) (replies : List Reply) :
    Pursues g [.query currentBuildQuery [.text mat.text]] (requireNew mat) replies := by
  obtain ⟨⟨notCurrent, -, notDelete⟩, -⟩ := queriesApart
  rw [requireNew, queryOptional]
  refine .rows fun reply rest _ _ => ?_
  rcases found : rowsOf reply with _ | ⟨row, _ | ⟨another, more⟩⟩
  · exact .inl ⟨none, rfl, by simp [Suits, found, notCurrent.symm, notDelete], fun _ => .through _ _⟩
  · exact .inr ⟨by simp [Suits, found], .inr ⟨some row, _, rfl, rfl⟩⟩
  · exact .inr ⟨by simp [Suits, found], .inl ⟨_, rfl⟩⟩

theorem dropPursues (mat : MaterializationId) {rows : List (List Cell)}
    (typed : ∀ row ∈ rows, ∃ name, row[0]? = some (.text (some name))) (replies : List Reply) :
    Pursues g ((rows.filterMap nameOf).map fun name => .batch (dropTable name)) (dropBuilds mat rows)
      replies := by
  induction rows generalizing replies with
  | nil => exact fun _ => .through _ _
  | cons row rest ih =>
    obtain ⟨name, first⟩ := typed row List.mem_cons_self
    have named : nameOf row = some name := by simp [nameOf, first, Cell.asText]
    simp only [dropBuilds, firstName first, pure_bind, List.filterMap_cons, named, List.map_cons]
    exact (batchPursues g _ _ replies).bind fun _ _ _ =>
      ih (fun other mem => typed other (List.mem_cons_of_mem row mem)) _

theorem takePursues (mat : MaterializationId) {plan : List Request} {f : List (List Cell) → Task Talk α}
    {replies : List Reply}
    (given : ∀ reply rest, replies = reply :: rest → (rowsOf reply).filterMap nameOf = g.builds)
    (later : ∀ rows rest, (∀ row ∈ rows, ∃ name, row[0]? = some (.text (some name))) →
      rows.filterMap nameOf = g.builds → Pursues g plan (f rows) rest) :
    Pursues g (.query deleteBuilds [.text mat.text] :: plan) (takeBuilds mat >>= f) replies := by
  obtain ⟨⟨-, notTable, notCurrent⟩, -⟩ := queriesApart
  simp only [takeBuilds, bind_assoc, query]
  refine .rows fun reply rest start typed => ?_
  have names := given reply rest start
  rcases found : rowsOf reply with _ | ⟨row, more⟩
  · exact .inr ⟨by simp [Suits, found], .inr ⟨[], _, rfl, rfl⟩⟩
  · refine .inl ⟨row :: more, rfl, ?_, ?_⟩
    · rw [found] at names
      simp [Suits, found, names, notTable.symm, notCurrent.symm]
    · have rowsTyped := typed (.inr rfl)
      rw [found] at names rowsTyped
      simpa using later (row :: more) rest rowsTyped names

namespace Plan

def creatingCatalog : List Request := [.connection, .batch createCatalog]

def building (id : ResourceId) (mustBeNew : Bool) (g : Given) : Plan where
  before := [.connection, .query tableTypeQuery [.text (tableName id)]] ++ creatingCatalog ++
    [.token, .connection]
  inside := lock (.ofResource id) ::
    ((if mustBeNew then [.query currentBuildQuery [.text (MaterializationId.ofResource id).text]] else []) ++
      [.batch (materialization (buildTable g.word) (tableName id)),
        .query insertBuild [.text (MaterializationId.ofResource id).text, .text (buildTable g.word)]])

def deleting (mat : MaterializationId) (g : Given) : Plan where
  before := creatingCatalog ++ [.connection]
  inside := lock mat :: .query deleteBuilds [.text mat.text] ::
    g.builds.map fun name => .batch (dropTable name)

def needing (ids : List ResourceId) : List Request :=
  ids.flatMap fun id => [.connection, .query tableTypeQuery [.text (tableName id)]]

def replacing (before : List Request) (table sql : String) : Plan where
  before := before ++ [.connection]
  inside := [.batch (dropTable table), .batch sql]

end Plan

theorem executeBatchPursues (sql kind id : String) (replies : List Reply) :
    Pursues g [.connection, .batch sql] (executeBatch sql kind id) replies :=
  (connectPursues g replies).bind fun _ _ _ => batchPursues g _ _ _

theorem lockPursues (mat : MaterializationId) (replies : List Reply) :
    Pursues g [Plan.lock mat] (lock mat) replies :=
  executePursues g _ _ queriesApart.2.2.1 replies

theorem replacePursues (table sql kind : String) (replies : List Reply) :
    Pursues g (Plan.replacing [] table sql).requests (replaceTable table sql kind) replies :=
  (connectPursues g replies).bind fun _ _ _ =>
    (batchPursues g _ _ _).bind fun _ _ _ =>
      (batchPursues g _ _ _).bind fun _ _ _ =>
        (batchPursues g _ _ _).bind fun _ _ _ => batchPursues g _ _ _

theorem branchThen (c : Prop) [Decidable c] (s t : Task Talk α) (f : α → Task Talk β) :
    ((if c then s else t) >>= f) = if c then s >>= f else t >>= f := by
  split <;> rfl

theorem buildSplit (id : ResourceId) (mustBeNew : Bool) :
    build id mustBeNew = (do
      Task.ofExcept (id.checkType [.feature])
      requireTable (tableName id) "resource table" id.text
      ensureCatalog
      let word ← freshToken
      connect
      beginTransaction
      lock (.ofResource id)
      (if mustBeNew then requireNew (.ofResource id) else pure ())
      batch (materialization (buildTable word) (tableName id))
        (tableError "Create table error" "materialization" (MaterializationId.ofResource id).text)
      execute insertBuild [.text (MaterializationId.ofResource id).text, .text (buildTable word)]
        (tableError "Catalog insert error" "materialization" (MaterializationId.ofResource id).text)
      commitTransaction
      return materializationHandle (.ofResource id) (buildTable word)) := by
  cases mustBeNew
  · simp only [build, Bool.false_eq_true, if_false, pure_bind]
  · simp only [build, if_true, requireNew, bind_assoc, branchThen, pure_bind]

theorem deleteSplit (mat : MaterializationId) :
    deleteMaterialization mat = (do
      ensureCatalog
      connect
      beginTransaction
      lock mat
      let builds ← takeBuilds mat
      dropBuilds mat builds
      commitTransaction) := by
  simp only [deleteMaterialization, takeBuilds, bind_assoc, branchThen, pure_bind]

theorem kindPursues (mat : MaterializationId) (mustBeNew : Bool) (replies : List Reply) :
    Pursues g (if mustBeNew then [.query currentBuildQuery [.text mat.text]] else [])
      (if mustBeNew then requireNew mat else pure ()) replies := by
  cases mustBeNew
  · exact fun _ => .through _ _
  · exact newPursues mat replies

theorem buildPursues {id : ResourceId} (feature : id.checkType [.feature] = .ok ()) (mustBeNew : Bool)
    {replies : List Reply} (word : ∀ reply rest, replies.drop 4 = reply :: rest → wordOf reply = g.word) :
    Pursues g (Plan.building id mustBeNew g).requests (build id mustBeNew) replies := by
  have listed : (Plan.building id mustBeNew g).requests =
      [.connection, .query tableTypeQuery [.text (tableName id)]] ++ (Plan.creatingCatalog ++
        .token :: ([.connection] ++ ([.batch startTransaction] ++ ([Plan.lock (.ofResource id)] ++
          ((if mustBeNew then
              [.query currentBuildQuery [.text (MaterializationId.ofResource id).text]] else []) ++
            ([.batch (materialization (buildTable g.word) (tableName id))] ++
              ([.query insertBuild [.text (MaterializationId.ofResource id).text,
                  .text (buildTable g.word)]] ++ ([.batch commit] ++ [])))))))) := by
    simp [Plan.requests, Plan.building]
  rw [listed, buildSplit, feature]
  refine (requirePursues _ _ _ replies).bind fun _ rest left => ?_
  refine (executeBatchPursues _ _ _ rest).bind fun _ later more => ?_
  refine tokenPursues (fun reply last start => word reply last ?_) ?_
  · rw [← start, more, left, List.drop_drop]
    rfl
  refine (connectPursues g _).bind fun _ _ _ => ?_
  refine (batchPursues g _ _ _).bind fun _ _ _ => ?_
  refine (lockPursues _ _).bind fun _ _ _ => ?_
  refine (kindPursues _ mustBeNew _).bind fun _ _ _ => ?_
  refine (batchPursues g _ _ _).bind fun _ _ _ => ?_
  refine (executePursues g _ _ queriesApart.2.1 _).bind fun _ _ _ => ?_
  exact (batchPursues g _ _ _).bind fun _ _ _ _ => .through _ _

theorem deletePursues (mat : MaterializationId) {replies : List Reply}
    (builds : ∀ reply rest, replies.drop 5 = reply :: rest →
      (rowsOf reply).filterMap nameOf = g.builds) :
    Pursues g (Plan.deleting mat g).requests (deleteMaterialization mat) replies := by
  have listed : (Plan.deleting mat g).requests =
      Plan.creatingCatalog ++ ([.connection] ++ ([.batch startTransaction] ++ ([Plan.lock mat] ++
        .query deleteBuilds [.text mat.text] ::
          ((g.builds.map fun name => .batch (dropTable name)) ++ [.batch commit])))) := by
    simp [Plan.requests, Plan.deleting]
  rw [listed, deleteSplit]
  refine (executeBatchPursues _ _ _ replies).bind fun _ first start => ?_
  refine (connectPursues g _).bind fun _ second next => ?_
  refine (batchPursues g _ _ _).bind fun _ third begun => ?_
  refine (lockPursues _ _).bind fun _ fourth locked => ?_
  refine takePursues mat (fun reply rest answered => builds reply rest ?_) fun rows rest typed names => ?_
  · rw [← answered, locked, begun, next, start]
    simp
  · rw [← names]
    exact (dropPursues mat typed _).bind fun _ _ _ => batchPursues g _ _ _

theorem requireResourcesPursues (ids : List ResourceId) (replies : List Reply) :
    Pursues g (Plan.needing ids) (requireResources ids) replies := by
  induction ids generalizing replies with
  | nil => exact fun _ => .through _ _
  | cons id rest ih => exact (requirePursues _ _ _ replies).bind fun _ later _ => ih later

theorem startsApart {word : String} (rest : String)
    (other : ¬ word.toList <+: startTransaction.toList ∧ ¬ word.toList <+: commit.toList) :
    word ++ rest ≠ startTransaction ∧ word ++ rest ≠ commit := by
  have opens : word.toList <+: (word ++ rest).toList := ⟨rest.toList, String.toList_append.symm⟩
  exact ⟨fun same => other.1 (same ▸ opens), fun same => other.2 (same ▸ opens)⟩

theorem dropApart (table : String) :
    dropTable table ≠ startTransaction ∧ dropTable table ≠ commit :=
  startsApart (quoteIdent table) (by simp [startTransaction, commit])

def Creates (sql : String) : Prop := ∃ rest, sql = "CREATE TABLE " ++ rest

theorem Creates.longer {sql : String} (creates : Creates sql) (more : String) : Creates (sql ++ more) := by
  obtain ⟨rest, rfl⟩ := creates
  exact ⟨rest ++ more, String.append_assoc ..⟩

theorem Creates.apart {sql : String} (creates : Creates sql) : sql ≠ startTransaction ∧ sql ≠ commit := by
  obtain ⟨rest, rfl⟩ := creates
  exact startsApart rest (by simp [startTransaction, commit])

theorem catalogApart : createCatalog ≠ startTransaction ∧ createCatalog ≠ commit :=
  have creates : Creates createCatalog := .longer (.longer ⟨"IF NOT EXISTS ", rfl⟩ _) _
  creates.apart

theorem materializationCreates (table source : String) : Creates (materialization table source) :=
  .longer (.longer (.longer ⟨quoteIdent table, rfl⟩ _) _) _

theorem createTableAsCreates (table query : String) : Creates (createTableAs table query) :=
  .longer (.longer ⟨quoteIdent table, rfl⟩ _) _

theorem trainingSetCreates (table : String) (d : TrainingSetDef) : Creates (trainingSet table d) :=
  .longer (.longer (.longer (.longer (.longer (.longer ⟨quoteIdent table, rfl⟩ _) _) _) _) _) _

theorem tableTypeFree (table : String) :
    (Request.query tableTypeQuery [.text table]).onCatalog = false := by
  obtain ⟨⟨notCurrent, notDelete, -⟩, ⟨notTable, -⟩, -⟩ := queriesApart
  simp [Request.onCatalog, notCurrent, notTable.symm, notDelete]

namespace Plan

theorem needingPlain {ids : List ResourceId} {r : Request} (mem : r ∈ needing ids) :
    r = .connection ∨ ∃ table, r = .query tableTypeQuery [.text table] := by
  obtain ⟨id, -, inside⟩ := List.mem_flatMap.mp mem
  simp only [List.mem_cons, List.not_mem_nil, or_false] at inside
  exact inside.imp_right fun same => ⟨_, same⟩

theorem buildingProper (id : ResourceId) (mustBeNew : Bool) (g : Given) :
    (building id mustBeNew g).Proper where
  apart := by
    cases mustBeNew <;>
      simp [building, creatingCatalog, lock, catalogApart, (materializationCreates _ _).apart]
  outside := by
    rintro r mem
    simp only [building, creatingCatalog, List.cons_append, List.nil_append, List.mem_cons,
      List.not_mem_nil, or_false] at mem
    rcases mem with rfl | rfl | rfl | rfl | rfl | rfl <;> rfl
  locked := .inl ⟨_, _, rfl⟩

theorem deletingProper (mat : MaterializationId) (g : Given) : (deleting mat g).Proper where
  apart := by
    simp [deleting, creatingCatalog, lock, catalogApart, dropApart]
  outside := by
    simp [deleting, creatingCatalog, Request.onCatalog]
  locked := .inl ⟨_, _, rfl⟩

theorem replacingProper {ids : List ResourceId} (table : String) {sql : String}
    (creates : Creates sql) :
    (replacing (needing ids) table sql).Proper where
  apart := by
    simp only [replacing, List.mem_append, List.mem_cons, List.not_mem_nil, or_false]
    rintro r ((mem | rfl) | rfl | rfl)
    · rcases needingPlain mem with rfl | ⟨name, rfl⟩ <;> simp
    · simp
    · simpa using dropApart table
    · simpa using creates.apart
  outside := by
    simp only [replacing, List.mem_append, List.mem_singleton]
    rintro r (mem | rfl)
    · rcases needingPlain mem with rfl | ⟨name, rfl⟩
      · rfl
      · exact tableTypeFree _
    · rfl
  locked := .inr <| by
    simp [replacing, Request.onCatalog]

end Plan

inductive TransactionCall where
  | createMaterialization (id : ResourceId)
  | updateMaterialization (id : ResourceId)
  | deleteMaterialization (mat : MaterializationId)
  | updateTransformation (c : TransformationConfig)
  | updateTrainingSet (d : TrainingSetDef)

/- The word that names a new build is the fifth reply to a call, and the builds that a deletion takes
are in the sixth. -/
def Given.of (replies : List Reply) : Given where
  word := (replies[4]?.map wordOf).getD ""
  builds := ((replies[5]?.map rowsOf).getD []).filterMap nameOf

namespace TransactionCall

def task : TransactionCall → Task Talk Unit
  | createMaterialization id => do
    let _ ← store.createMaterialization id
    return ()
  | updateMaterialization id => do
    let _ ← store.updateMaterialization id
    return ()
  | deleteMaterialization mat => store.deleteMaterialization mat
  | updateTransformation c => store.updateTransformation c
  | updateTrainingSet d => store.updateTrainingSet d

def plan (g : Given) : TransactionCall → Except Error Plan
  | createMaterialization id => do
    id.checkType [.feature]
    return .building id true g
  | updateMaterialization id => do
    id.checkType [.feature]
    return .building id false g
  | deleteMaterialization mat => return .deleting mat g
  | updateTransformation c => do
    let query ← checkTransformation c
    return .replacing (Plan.needing []) (tableName c.target) (createTableAs (tableName c.target) query)
  | updateTrainingSet d => do
    d.check
    return .replacing (Plan.needing (d.label :: d.features)) (tableName d.id)
      (trainingSet (tableName d.id) d)

theorem builtPursues {id : ResourceId} (feature : id.checkType [.feature] = .ok ()) (mustBeNew : Bool)
    (replies : List Reply) :
    Pursues (Given.of replies) (Plan.building id mustBeNew (Given.of replies)).requests
      (do let _ ← build id mustBeNew; return ()) replies := by
  rw [← List.append_nil (Plan.requests _)]
  refine (buildPursues feature mustBeNew fun reply rest start => ?_).bind fun _ _ _ _ => .through _ _
  have fifth : replies[4]? = some reply := by rw [← List.head?_drop, start]; rfl
  simp [Given.of, fifth]

theorem deletedPursues (mat : MaterializationId) (replies : List Reply) :
    Pursues (Given.of replies) (Plan.deleting mat (Given.of replies)).requests
      (Postgres.deleteMaterialization mat) replies := by
  refine deletePursues mat fun reply rest start => ?_
  have sixth : replies[5]? = some reply := by rw [← List.head?_drop, start]; rfl
  simp [Given.of, sixth]

theorem trainedPursues {d : TrainingSetDef} (valid : d.check = .ok ()) (replies : List Reply) :
    Pursues g (Plan.replacing (Plan.needing (d.label :: d.features)) (tableName d.id)
      (trainingSet (tableName d.id) d)).requests (Postgres.updateTrainingSet d) replies := by
  have listed (before : List Request) (table sql : String) : (Plan.replacing before table sql).requests =
      before ++ (Plan.replacing [] table sql).requests := by
    simp [Plan.requests, Plan.replacing]
  rw [listed]
  simp only [Postgres.updateTrainingSet, checkTrainingSet, valid]
  exact (requireResourcesPursues _ replies).bind fun _ _ _ => replacePursues _ _ _ _

theorem planned {call : TransactionCall} {p : Plan} {replies : List Reply}
    (allowed : call.plan (Given.of replies) = .ok p) :
    Pursues (Given.of replies) p.requests call.task replies ∧ p.Proper := by
  cases call with
  | createMaterialization id =>
    obtain ⟨⟨⟩, feature, ⟨⟩⟩ := Task.boundOk allowed
    exact ⟨builtPursues feature true replies, Plan.buildingProper ..⟩
  | updateMaterialization id =>
    obtain ⟨⟨⟩, feature, ⟨⟩⟩ := Task.boundOk allowed
    exact ⟨builtPursues feature false replies, Plan.buildingProper ..⟩
  | deleteMaterialization mat =>
    cases allowed
    exact ⟨deletedPursues mat replies, Plan.deletingProper ..⟩
  | updateTransformation c =>
    obtain ⟨sql, valid, ⟨⟩⟩ := Task.boundOk allowed
    refine ⟨?_, Plan.replacingProper _ (createTableAsCreates _ _)⟩
    simp only [task, store, Postgres.updateTransformation, valid]
    exact replacePursues _ _ _ replies
  | updateTrainingSet d =>
    obtain ⟨⟨⟩, valid, ⟨⟩⟩ := Task.boundOk allowed
    exact ⟨trainedPursues valid replies, Plan.replacingProper _ (trainingSetCreates _ _)⟩

theorem checkedError {check : Except Error α} {f : α → β} {e : Error}
    (refused : (check >>= fun a => .ok (f a)) = .error e) : check = .error e := by
  cases check with
  | error other =>
    cases refused
    rfl
  | ok a => cases refused

theorem forbidden {call : TransactionCall} {e : Error} (replies : List Reply)
    (refused : call.plan g = .error e) :
    heard call.task replies = (some (.error (.error e), replies), []) := by
  cases call with
  | createMaterialization id =>
    simp only [task, store, build, checkedError refused]
    rfl
  | updateMaterialization id =>
    simp only [task, store, build, checkedError refused]
    rfl
  | deleteMaterialization mat => cases refused
  | updateTransformation c =>
    simp only [task, store, Postgres.updateTransformation, checkedError refused]
    rfl
  | updateTrainingSet d =>
    simp only [task, store, Postgres.updateTrainingSet, checkTrainingSet, checkedError refused]
    rfl

/-- Every call goes through its transaction as a whole, whatever the server answers. Only the table of
the catalog itself is made ahead of the transaction, where it is missing. -/
theorem allOrNothing (call : TransactionCall) (replies : List Reply)
    (typed : ∀ e ∈ (heard call.task replies).2.zip replies, Typed e) :
    match call.plan (Given.of replies) with
    | .error e => heard call.task replies = (some (.error (.error e), replies), [])
    | .ok p => Atomic (Given.of replies) p replies (heard call.task replies) := by
  split
  · rename_i e refused
    exact forbidden replies refused
  · rename_i p allowed
    obtain ⟨pursues, proper⟩ := planned allowed
    exact (pursues typed).atomic proper

theorem allOrNothingTwoBuilds :
    let mat : MaterializationId := ⟨"f__v"⟩
    let replies : List Reply := [.done, .done, .done, .done, .done,
      .rows [[.text (some "old")], [.text (some "new")]], .done, .done, .done]
    let x := heard (deleteMaterialization mat).task replies
    (∀ e ∈ x.2.zip replies, Typed e) ∧
      Atomic ⟨"", ["old", "new"]⟩ (.deleting mat ⟨"", ["old", "new"]⟩) replies x ∧
      x.1 = some (.ok (), []) := by
  intro mat replies x
  have typed : ∀ e ∈ x.2.zip replies, Typed e := by
    have sent : x.2 = (Plan.deleting mat ⟨"", ["old", "new"]⟩).requests := rfl
    rw [sent]
    simp [Plan.requests, Plan.deleting, Plan.creatingCatalog, Plan.lock, replies, Typed, rowsOf]
  exact ⟨typed, allOrNothing (.deleteMaterialization mat) replies typed, rfl⟩

end TransactionCall

end FeatureStore.Postgres
