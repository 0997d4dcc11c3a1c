import FeatureStore.Proofs.Offline.Following
import FeatureStore.Proofs.Online.Naming
import FeatureStore.Proofs.Text.Replace
import Mathlib.Data.List.TakeWhile

/-!
The tables and views that the PostgreSQL store makes, replaces and writes, as its statements name them.
Whatever is done with a resource names one table; two resources have the same one if and only if their
types are equal and their names and variants are joined to the same text.
-/
namespace FeatureStore.Postgres
variable {α β : Type}

def closing : List Char → Option (List Char × List Char)
  | [] => none
  | '"' :: '"' :: rest => (closing rest).map fun (word, more) => ('"' :: word, more)
  | '"' :: rest => some ([], rest)
  | c :: rest => (closing rest).map fun (word, more) => (c :: word, more)

theorem closingDoubled (name : List Char) {more : List Char} (ends : more.head? ≠ some '"') :
    closing (doubleQuotes name ++ '"' :: more) = some (name, more) := by
  induction name with
  | nil =>
    rcases more with _ | ⟨c, more⟩
    · rfl
    · have apart : c ≠ '"' := fun same => ends (congrArg some same)
      simp [doubleQuotes, closing, apart]
  | cons c name ih =>
    by_cases quote : c = '"'
    · subst quote
      have doubled : doubleQuotes ('"' :: name) = '"' :: '"' :: doubleQuotes name := rfl
      simp [doubled, closing, ih]
    · have plain : doubleQuotes (c :: name) = c :: doubleQuotes name := by simp [doubleQuotes, quote]
      simp [plain, closing, quote, ih]

def openings : List String :=
  ["CREATE TABLE ", "CREATE TABLE IF NOT EXISTS ", "CREATE VIEW ", "DROP TABLE IF EXISTS ", "INSERT INTO "]

def target? (sql : String) : Option String :=
  if String.ofList (sql.toList.takeWhile (· ≠ '"')) ∈ openings then
    (closing (sql.toList.dropWhile (· ≠ '"')).tail).map fun read => String.ofList read.1
  else none

def Request.target? : Request → Option String
  | .batch sql | .query sql _ => Postgres.target? sql
  | _ => none

theorem quotedTarget {sql words table : String} (more : List Char)
    (same : sql.toList = words.toList ++ ((quoteIdent table).toList ++ more))
    (ends : more.head? ≠ some '"') (plain : '"' ∉ words.toList) :
    target? sql = if words ∈ openings then some table else none := by
  have chars : sql.toList = words.toList ++ '"' :: (doubleQuotes table.toList ++ '"' :: more) := by
    simpa [quoteIdent] using same
  obtain ⟨before, behind⟩ := Text.aroundFirst plain (doubleQuotes table.toList ++ '"' :: more)
  rw [target?, chars, before, behind, String.ofList_toList, List.tail_cons, closingDoubled _ ends]
  simp

theorem bareTarget {words table : String} (plain : '"' ∉ words.toList) :
    target? (words ++ quoteIdent table) = if words ∈ openings then some table else none :=
  quotedTarget [] (by simp) (by simp) plain

def Opens (words table sql : String) : Prop :=
  ∃ rest, sql = words ++ quoteIdent table ++ rest ∧ rest.toList.head? = some ' '

namespace Opens
variable {words table sql : String}

theorem longer (opens : Opens words table sql) (more : String) : Opens words table (sql ++ more) := by
  obtain ⟨rest, rfl, blank⟩ := opens
  exact ⟨rest ++ more, String.append_assoc .., by simp [blank]⟩

theorem read (opens : Opens words table sql) (plain : '"' ∉ words.toList) :
    target? sql = if words ∈ openings then some table else none := by
  obtain ⟨rest, rfl, blank⟩ := opens
  refine quotedTarget rest.toList ?_ (by simp [blank]) plain
  rw [String.toList_append, String.toList_append, List.append_assoc]

theorem target (opens : Opens words table sql) (known : words ∈ openings) :
    target? sql = some table := by
  rw [opens.read, if_pos known]
  simp only [openings, List.mem_cons, List.not_mem_nil, or_false] at known
  rcases known with rfl | rfl | rfl | rfl | rfl <;> simp

end Opens

theorem createResourceTarget (table : String) : target? (createResource table) = some table :=
  have opens : Opens "CREATE TABLE " table (createResource table) := ⟨_, rfl, by simp⟩
  opens.target (by simp [openings])

theorem createPrimaryTarget (table : String) (schema : TableSchema) :
    target? (createPrimary table schema) = some table :=
  have opens : Opens "CREATE TABLE " table (createPrimary table schema) :=
    .longer (.longer ⟨_, rfl, by simp⟩ _) _
  opens.target (by simp [openings])

theorem createTableAsTarget (table query : String) : target? (createTableAs table query) = some table :=
  have opens : Opens "CREATE TABLE " table (createTableAs table query) := .longer ⟨_, rfl, by simp⟩ _
  opens.target (by simp [openings])

theorem trainingSetTarget (table : String) (d : TrainingSetDef) :
    target? (trainingSet table d) = some table :=
  have opens : Opens "CREATE TABLE " table (trainingSet table d) :=
    .longer (.longer (.longer (.longer (.longer ⟨_, rfl, by simp⟩ _) _) _) _) _
  opens.target (by simp [openings])

theorem resourceViewTarget (view : String) (schema : ResourceSchema) :
    target? (resourceView view schema) = some view :=
  have opens : Opens "CREATE VIEW " view (resourceView view schema) :=
    .longer (.longer (.longer (.longer (.longer (.longer (.longer ⟨_, rfl, by simp⟩ _) _) _) _) _) _) _
  opens.target (by simp [openings])

theorem primaryViewTarget (view source : String) : target? (primaryView view source) = some view :=
  have opens : Opens "CREATE VIEW " view (primaryView view source) := .longer ⟨_, rfl, by simp⟩ _
  opens.target (by simp [openings])

theorem insertRecordTarget (table : String) : target? (insertRecord table) = some table :=
  have opens : Opens "INSERT INTO " table (insertRecord table) := ⟨_, rfl, by simp⟩
  opens.target (by simp [openings])

theorem insertRowTarget (table : String) : target? (insertRow table) = some table :=
  have opens : Opens "INSERT INTO " table (insertRow table) := .longer (.longer ⟨_, rfl, by simp⟩ _) _
  opens.target (by simp [openings])

theorem dropTableTarget (table : String) : target? (dropTable table) = some table :=
  (bareTarget (by simp)).trans (if_pos (by simp [openings]))

theorem selectAllTarget (table : String) : target? (selectAll table) = none :=
  (bareTarget (by simp)).trans (if_neg (by simp [openings]))

theorem namelessTarget {sql : String} (plain : '"' ∉ sql.toList) : target? sql = none := by
  have passed : sql.toList.dropWhile (· ≠ '"') = [] := by
    refine List.dropWhile_eq_nil_iff.mpr fun c mem => ?_
    have apart : c ≠ '"' := fun same => plain (same ▸ mem)
    simpa using apart
  unfold target?
  rw [passed, List.tail_nil]
  simp [closing]

theorem plainTargets :
    target? tableTypeQuery = none ∧ target? startTransaction = none ∧ target? commit = none := by
  unfold tableTypeQuery startTransaction commit
  exact ⟨namelessTarget (by simp), namelessTarget (by simp), namelessTarget (by simp)⟩

def Sends (p : Request → Prop) (t : Task Talk α) : Prop := ∀ replies, ∀ r ∈ (heard t replies).2, p r

namespace Sends
variable {p : Request → Prop}

theorem pure (a : α) : Sends p (Pure.pure a : Task Talk α) := fun _ r mem => by cases mem

theorem throw (f : Failure) : Sends p (MonadExcept.throw f : Task Talk α) := fun _ r mem => by cases mem

theorem throwThen (f : Failure) (next : α → Task Talk β) :
    Sends p ((MonadExcept.throw f : Task Talk α) >>= next) := fun _ r mem => by cases mem

theorem ofExcept (x : Except Error α) : Sends p (Task.ofExcept x : Task Talk α) := by
  cases x with
  | error e => exact .throw _
  | ok a => exact .pure a

theorem bind {t : Task Talk α} {f : α → Task Talk β} (first : Sends p t) (next : ∀ a, Sends p (f a)) :
    Sends p (t >>= f) := by
  intro replies r mem
  have sent := first replies
  rw [heardBind] at mem
  rcases same : heard t replies with ⟨_ | ⟨_ | a, rest⟩, before⟩ <;> rw [same] at mem sent
  · exact sent r mem
  · exact sent r mem
  · rcases List.mem_append.mp mem with early | late
    · exact sent r early
    · exact next a rest r late

theorem each {items : List α} {use : α → Task Talk Unit} (one : ∀ a ∈ items, Sends p (use a)) :
    Sends p (items.forM use) := by
  induction items with
  | nil => exact .pure ()
  | cons a rest ih =>
    exact .bind (one a List.mem_cons_self) fun _ => ih fun b mem => one b (List.mem_cons_of_mem a mem)

theorem ask {r : Request} (right : p r) (read : Reply → Except Refusal α) (error : Refusal → Error) :
    Sends p (Postgres.ask r read error) := by
  intro replies other mem
  cases replies with
  | nil =>
    obtain rfl : other = r := List.mem_singleton.mp mem
    exact right
  | cons reply rest =>
    rw [heardAsk] at mem
    obtain rfl : other = r := List.mem_singleton.mp mem
    exact right

theorem connect (right : p .connection) : Sends p connect := by
  intro replies r mem
  have sent : (heard Postgres.connect replies).2 = [.connection] := by
    rcases replies with _ | ⟨reply, rest⟩
    · rfl
    · cases reply <;> rfl
  rw [sent] at mem
  rw [List.mem_singleton.mp mem]
  exact right

end Sends

def OnlyOf (id : ResourceId) (r : Request) : Prop := ∀ table, r.target? = some table → table = tableName id

section Tasks
variable {id : ResourceId}

theorem ownBatch {sql : String} (own : target? sql = some (tableName id)) (error : Refusal → Error) :
    Sends (OnlyOf id) (batch sql error) := by
  refine .ask (fun table named => ?_) _ _
  rw [Request.target?, own] at named
  exact (Option.some.inj named).symm

theorem ownQuery {sql : String} (own : target? sql = some (tableName id)) (params : List Param)
    (error : Refusal → Error) : Sends (OnlyOf id) (execute sql params error) := by
  refine .ask (fun table named => ?_) _ _
  rw [Request.target?, own] at named
  exact (Option.some.inj named).symm

theorem otherBatch {sql : String} (other : target? sql = none) (error : Refusal → Error) :
    Sends (OnlyOf id) (batch sql error) := by
  refine .ask (fun table named => ?_) _ _
  rw [Request.target?, other] at named
  cases named

theorem otherQuery {sql : String} (other : target? sql = none) (params : List Param)
    (read : Reply → Except Refusal α) (error : Refusal → Error) :
    Sends (OnlyOf id) (ask (.query sql params) read error) := by
  refine .ask (fun table named => ?_) _ _
  rw [Request.target?, other] at named
  cases named

theorem connectOnly : Sends (OnlyOf id) connect := .connect fun _ named => by cases named

theorem firstCellOnly (row : List Cell) (read : Cell → Option α) :
    Sends (OnlyOf id) (firstCell row read) := by
  rw [firstCell]
  split
  · exact .pure _
  · exact .throw _

theorem tableTypeOnly (table : String) : Sends (OnlyOf id) (tableType table) := by
  refine .bind connectOnly fun _ => .bind (otherQuery plainTargets.1 _ _ _) fun found => ?_
  split
  · exact .pure _
  · exact .bind (firstCellOnly _ _) fun _ => .pure _

theorem requireOnly (table kind text : String) : Sends (OnlyOf id) (requireTable table kind text) := by
  refine .bind (tableTypeOnly table) fun found => ?_
  split
  · exact .throw _
  · exact .pure _

theorem executeOnly {sql : String} (own : target? sql = some (tableName id)) (kind text : String) :
    Sends (OnlyOf id) (executeBatch sql kind text) :=
  .bind connectOnly fun _ => ownBatch own _

theorem replaceOnly {sql : String} (own : target? sql = some (tableName id)) (kind : String) :
    Sends (OnlyOf id) (replaceTable (tableName id) sql kind) :=
  .bind connectOnly fun _ => .bind (otherBatch plainTargets.2.1 _) fun _ =>
    .bind (ownBatch (dropTableTarget _) _) fun _ => .bind (ownBatch own _) fun _ =>
      otherBatch plainTargets.2.2 _

theorem writeRecordOnly (readOnly : Bool) (r : ResourceRecord) :
    Sends (OnlyOf id) (writeRecord id (tableName id) readOnly r) := by
  have writes : Sends (OnlyOf id) (do
      Task.ofExcept r.check
      connect
      execute (insertRecord (tableName id))
        [.text r.entity, .json (jsonOfValue r.value), .time r.ts.toMicros]
        (tableError "Insert error" "resource table" id.text)) :=
    .bind (.ofExcept _) fun _ => .bind connectOnly fun _ => ownQuery (insertRecordTarget _) _ _
  cases readOnly with
  | false => exact writes
  | true => exact .bind (.throw _) fun _ => writes

theorem writeRowOnly (row : Row) : Sends (OnlyOf id) (writeRow (tableName id) row) := by
  have looks : OnlyOf id (.prepare (noRows (tableName id))) := fun _ named => by cases named
  refine .bind connectOnly fun _ => .bind (.ask looks _ _) fun columns => ?_
  have inserts : Sends (OnlyOf id) (execute (insertRow (tableName id)) [.json (rowObject columns row)]
      (tableError "Insert error" "primary table" (tableName id))) :=
    ownQuery (insertRowTarget _) _ _
  split
  · exact .bind (.throw _) fun _ => inserts
  · exact inserts

theorem requireResourcesOnly (ids : List ResourceId) : Sends (OnlyOf id) (requireResources ids) := by
  induction ids with
  | nil => exact .pure ()
  | cons other rest ih => exact .bind (requireOnly _ _ _) fun _ => ih

end Tasks

/- What a client does with one resource: it makes, replaces or reads a table, or takes a handle of one
and writes to it. -/
inductive TableCall where
  | createResource (id : ResourceId) (schema : TableSchema) (records : List ResourceRecord)
  | getResource (id : ResourceId) (records : List ResourceRecord)
  | registerResource (id : ResourceId) (schema : ResourceSchema) (records : List ResourceRecord)
  | createPrimary (id : ResourceId) (schema : TableSchema) (rows : List Row)
  | getPrimary (id : ResourceId) (rows : List Row)
  | registerPrimary (id : ResourceId) (source : String) (rows : List Row)
  | createTransformation (c : TransformationConfig)
  | updateTransformation (c : TransformationConfig)
  | getTransformation (id : ResourceId) (rows : List Row)
  | createTrainingSet (d : TrainingSetDef)
  | updateTrainingSet (d : TrainingSetDef)
  | getTrainingSet (id : ResourceId)

namespace TableCall

def resource : TableCall → ResourceId
  | createResource id _ _ | getResource id _ | registerResource id _ _ => id
  | createPrimary id _ _ | getPrimary id _ | registerPrimary id _ _ | getTransformation id _ => id
  | createTransformation c | updateTransformation c => c.target
  | createTrainingSet d | updateTrainingSet d => d.id
  | getTrainingSet id => id

def task : TableCall → Task Talk Unit
  | createResource id schema records => do records.forM (← store.createResource id schema).write
  | getResource id records => do records.forM (← store.getResource id).write
  | registerResource id schema records => do records.forM (← store.registerResource id schema).write
  | createPrimary id schema rows => do rows.forM (← store.createPrimary id schema).write
  | getPrimary id rows => do rows.forM (← store.getPrimary id).write
  | registerPrimary id source rows => do rows.forM (← store.registerPrimary id source).write
  | createTransformation c => store.createTransformation c
  | updateTransformation c => store.updateTransformation c
  | getTransformation id rows => do rows.forM (← store.getTransformation id).write
  | createTrainingSet d => store.createTrainingSet d
  | updateTrainingSet d => store.updateTrainingSet d
  | getTrainingSet id => do let _ ← store.getTrainingSet id

theorem recordsOnly (id : ResourceId) (readOnly : Bool) (records : List ResourceRecord) :
    Sends (OnlyOf id) (records.forM (resourceTable id (tableName id) readOnly).write) :=
  .each fun r _ => writeRecordOnly readOnly r

theorem rowsOnly (id : ResourceId) (rows : List Row) :
    Sends (OnlyOf id) (rows.forM (primaryTable (tableName id)).write) :=
  .each fun row _ => writeRowOnly row

theorem only (call : TableCall) : Sends (OnlyOf call.resource) call.task := by
  cases call with
  | createResource id schema records =>
    simp only [task, store, createResourceTable, bind_assoc, pure_bind]
    exact .bind (.ofExcept _) fun _ => .bind (.ofExcept _) fun _ =>
      .bind (executeOnly (createResourceTarget _) _ _) fun _ => recordsOnly id false records
  | getResource id records =>
    simp only [task, store, Postgres.getResource, bind_assoc]
    refine .bind (tableTypeOnly _) fun found => ?_
    cases found with
    | none => exact .throwThen _ _
    | some type => exact recordsOnly id _ records
  | registerResource id schema records =>
    simp only [task, store, Postgres.registerResource, bind_assoc, pure_bind]
    exact .bind (.ofExcept _) fun _ => .bind (requireOnly _ _ _) fun _ =>
      .bind (executeOnly (resourceViewTarget _ _) _ _) fun _ => recordsOnly id true records
  | createPrimary id schema rows =>
    simp only [task, store, createPrimaryTable, bind_assoc]
    refine .bind (.ofExcept _) fun _ => ?_
    split
    · exact .throwThen _ _
    · simp only [bind_assoc, pure_bind]
      exact .bind (executeOnly (createPrimaryTarget _ _) _ _) fun _ => rowsOnly id rows
  | getPrimary id rows =>
    simp only [task, store, Postgres.getPrimary, bind_assoc, pure_bind]
    exact .bind (requireOnly _ _ _) fun _ => rowsOnly id rows
  | registerPrimary id source rows =>
    simp only [task, store, Postgres.registerPrimary, bind_assoc, pure_bind]
    exact .bind (.ofExcept _) fun _ => .bind (requireOnly _ _ _) fun _ =>
      .bind (executeOnly (primaryViewTarget _ _) _ _) fun _ => rowsOnly id rows
  | createTransformation c =>
    exact .bind (.ofExcept _) fun query => executeOnly (createTableAsTarget _ _) _ _
  | updateTransformation c =>
    exact .bind (.ofExcept _) fun query => replaceOnly (createTableAsTarget _ _) _
  | getTransformation id rows =>
    simp only [task, store, Postgres.getTransformation, bind_assoc, pure_bind]
    exact .bind (.ofExcept _) fun _ => .bind (requireOnly _ _ _) fun _ => rowsOnly id rows
  | createTrainingSet d =>
    exact .bind (.bind (.ofExcept _) fun _ => requireResourcesOnly _) fun _ =>
      executeOnly (trainingSetTarget _ _) _ _
  | updateTrainingSet d =>
    exact .bind (.bind (.ofExcept _) fun _ => requireResourcesOnly _) fun _ =>
      replaceOnly (trainingSetTarget _ _) _
  | getTrainingSet id =>
    refine .bind (.bind (.ofExcept _) fun _ => .bind connectOnly fun _ =>
      .bind (otherQuery (selectAllTarget _) _ _ _) fun _ => .pure _) fun _ => .pure _

end TableCall

def NamedFor (id : ResourceId) (table : String) : Prop :=
  ∃ call : TableCall, call.resource = id ∧
    ∃ replies, ∃ r ∈ (heard call.task replies).2, r.target? = some table

theorem namedForIff {id : ResourceId} {table : String} : NamedFor id table ↔ table = tableName id := by
  constructor
  · rintro ⟨call, rfl, replies, r, sent, named⟩
    exact call.only replies r sent table named
  · rintro rfl
    let replies : List Reply := [.done, .rows [[.text (some "BASE TABLE")]], .done, .columns [], .done]
    have last : (heard (TableCall.getPrimary id [[]]).task replies).2[4]? =
        some (.query (insertRow (tableName id)) [.json (rowObject [] [])]) := rfl
    exact ⟨_, rfl, replies, _, List.mem_of_getElem? last, insertRowTarget _⟩

def typePart (t : ResourceType) : String := t.name ++ "__"

theorem typePartPrefix {a b : ResourceType} (begins : (typePart a).toList <+: (typePart b).toList) :
    a = b := by
  revert begins
  cases a <;> cases b <;> decide +kernel

theorem startsCompare {a b more other : String} (same : a ++ more = b ++ other) :
    a.toList <+: b.toList ∨ b.toList <+: a.toList := by
  have chars := congrArg String.toList same
  rw [String.toList_append, String.toList_append] at chars
  exact List.prefix_or_prefix_of_prefix ⟨more.toList, chars⟩ (List.prefix_append _ _)

theorem typePartApart {a b : ResourceType} {more other : String}
    (same : typePart a ++ more = typePart b ++ other) : a = b := by
  rcases startsCompare same with first | second
  · exact typePartPrefix first
  · exact (typePartPrefix second).symm

theorem appendParts (a b c d e : String) :
    a ++ b ++ c ++ d ++ c ++ e = a ++ (b ++ c ++ ("" ++ d ++ c ++ e)) := by
  simp only [String.append_assoc, String.empty_append]

open OnlineCall (keyOf Plain plainApart)

theorem tableNameParts (id : ResourceId) :
    tableName id = "featureforge_" ++ (typePart id.type ++ keyOf (id.name, id.variant)) :=
  appendParts _ _ _ _ _

theorem tableNameIff {f g : ResourceId} :
    tableName f = tableName g ↔
      f.type = g.type ∧ keyOf (f.name, f.variant) = keyOf (g.name, g.variant) := by
  rw [tableNameParts, tableNameParts, String.append_right_inj]
  constructor
  · intro same
    have types := typePartApart same
    rw [types, String.append_right_inj] at same
    exact ⟨types, same⟩
  · rintro ⟨types, keys⟩
    rw [types, keys]

theorem matApart (t : ResourceType) :
    ¬ "mat".toList <+: (typePart t).toList ∧ ¬ (typePart t).toList <+: "mat".toList := by
  cases t <;> decide +kernel

theorem materializationsApart (id : ResourceId) (word : String) :
    buildTable word ≠ tableName id ∧ catalog ≠ tableName id := by
  have apart (rest : String) : "featureforge_" ++ ("mat" ++ rest) ≠ tableName id := by
    intro same
    rw [tableNameParts, String.append_right_inj] at same
    exact (startsCompare same).elim (matApart id.type).1 (matApart id.type).2
  have build : buildTable word = "featureforge_" ++ ("mat" ++ ("_" ++ word)) := by
    rw [← String.append_assoc, ← String.append_assoc]
    rfl
  exact ⟨build ▸ apart _, apart "erializations"⟩

/-- Whatever is done with a resource names its one table or view and no other. Two resources have the same
one if and only if they are of one type and their names and variants are joined to the same text, which
different resources with plain names are not. No resource has a table of a materialization. -/
theorem tablesByText (f g : ResourceId) :
    (∀ table, NamedFor f table ↔ table = tableName f) ∧
      ((∃ table, NamedFor f table ∧ NamedFor g table) ↔
        f.type = g.type ∧ keyOf (f.name, f.variant) = keyOf (g.name, g.variant)) ∧
      (f ≠ g → Plain f.name → Plain g.name → ∀ table, NamedFor f table → ¬ NamedFor g table) ∧
      ∀ word, ¬ NamedFor f (buildTable word) ∧ ¬ NamedFor f catalog := by
  refine ⟨fun table => namedForIff, ?_, fun different plain plainOther table ofF ofG => ?_, fun word => ?_⟩
  · rw [← tableNameIff]
    constructor
    · rintro ⟨table, ofF, ofG⟩
      rw [← namedForIff.mp ofF, ← namedForIff.mp ofG]
    · exact fun same => ⟨tableName f, namedForIff.mpr rfl, namedForIff.mpr same⟩
  · have same : tableName f = tableName g := by rw [← namedForIff.mp ofF, ← namedForIff.mp ofG]
    obtain ⟨types, keys⟩ := tableNameIff.mp same
    obtain ⟨names, variants⟩ := Prod.mk.inj (plainApart (p := (f.name, f.variant)) ⟨plain, plainOther⟩ keys)
    refine different ?_
    cases f
    cases g
    simp_all
  · obtain ⟨build, listed⟩ := materializationsApart f word
    exact ⟨fun named => build (namedForIff.mp named), fun named => listed (namedForIff.mp named)⟩

def dailyVisits : ResourceId := ⟨"daily_visits", "v1", .transformation⟩

def weeklyVisits : ResourceId := ⟨"weekly_visits", "v1", .transformation⟩

theorem tablesByTextVisits :
    dailyVisits ≠ weeklyVisits ∧ OnlineCall.Plain dailyVisits.name ∧ OnlineCall.Plain weeklyVisits.name ∧
      ¬ NamedFor weeklyVisits (tableName dailyVisits) := by
  have daily : OnlineCall.Plain dailyVisits.name := by
    rw [OnlineCall.Plain]
    decide +kernel
  have weekly : OnlineCall.Plain weeklyVisits.name := by
    rw [OnlineCall.Plain]
    decide +kernel
  obtain ⟨named, -, apart, -⟩ := tablesByText dailyVisits weeklyVisits
  exact ⟨by decide, daily, weekly, apart (by decide) daily weekly _ ((named _).mpr rfl)⟩

theorem updateDropsOther :
    let f : ResourceId := ⟨"a__b", "c", .transformation⟩
    let g : ResourceId := ⟨"a", "b__c", .transformation⟩
    f ≠ g ∧ NamedFor g (tableName g) ∧
      (heard (updateTransformation ⟨.sql, f, "SELECT 1", []⟩) [.done, .done, .done]).2[2]? =
        some (.batch (dropTable (tableName g))) := by
  have same : tableName ⟨"a__b", "c", .transformation⟩ = tableName ⟨"a", "b__c", .transformation⟩ := by
    decide +kernel
  refine ⟨by decide, namedForIff.mpr rfl, ?_⟩
  rw [← same]
  rfl

end FeatureStore.Postgres
