import FeatureStore.Proofs.Online.History
import FeatureStore.Proofs.Online.Local

/-!
What the tables of the online store in memory hold. A table of values has what was written through its
own handles since it was made. The tables of vectors of a store with an embedding store all have the
same: what was written through the handles of any of them, deleted or not, and what the embedding store
had before.
-/
namespace FeatureStore
open OnlineCall Bindings

namespace MadeTable

def handle (dims : Option Nat) (m : MadeTable) : OnlineTable (StateM LocalStore) :=
  LocalStore.handle dims m.place (LocalStore.newTable dims m.type)

def answer (dims : Option Nat) (m : MadeTable) (entity : String) (found : Option FeatureValue) :
    Except Failure FeatureValue :=
  match found with
  | some value => .ok value
  | none => .error (.error (.notFound (if m.Pooled dims then "embedding" else "entity") entity))

variable {dims : Option Nat} {m : MadeTable}

theorem newPooled (pooled : m.Pooled dims) : LocalStore.newTable dims m.type = .vectors := if_pos pooled

theorem newOwn (own : ¬ m.Pooled dims) : LocalStore.newTable dims m.type = .values .empty := if_neg own

theorem handlePooled (pooled : m.Pooled dims) : m.handle dims = LocalStore.vectorTable (dims.getD 0) := by
  rw [handle, newPooled pooled]
  rfl

theorem handleOwn (own : ¬ m.Pooled dims) : m.handle dims = LocalStore.valueTable m.place := by
  rw [handle, newOwn own]
  rfl

end MadeTable

namespace LocalStore
open EmbeddingStore (kept)

theorem setEntriesVectors (records : List (String × FeatureValue)) :
    setEntries records .vectors = .vectors := by
  induction records with
  | nil => rfl
  | cons r rest ih => exact ih

theorem setEntriesAppend (first more : List (String × FeatureValue)) (t : LocalTable) :
    setEntries (first ++ more) t = setEntries more (setEntries first t) := List.foldl_append

def wrote (dims : Option Nat) (m : MadeTable) (records : List (String × FeatureValue))
    (s : LocalStore) : LocalStore :=
  { s with
    tables := if m.Pooled dims then s.tables else s.tables.modify m.place (setEntries records)
    vectors := s.vectors.insertAll (m.taken dims records) }

variable {dims : Option Nat} {m : MadeTable} {s : LocalStore} {records : List (String × FeatureValue)}

theorem wrotePooled (pooled : m.Pooled dims) :
    s.wrote dims m records = s.addVectors (kept (dims.getD 0) records) := by
  rw [wrote, MadeTable.taken, if_pos pooled, if_pos pooled]
  rfl

theorem wroteOwn (own : ¬ m.Pooled dims) :
    s.wrote dims m records = { s with tables := s.tables.modify m.place (setEntries records) } := by
  rw [wrote, m.takenOwn own, if_neg own]
  rfl

theorem wroteNothing : s.wrote dims m [] = s := by
  by_cases pooled : m.Pooled dims
  · rw [wrotePooled pooled]
    rfl
  · have same : setEntries [] = id := rfl
    rw [wroteOwn pooled, same, List.modify_id]

theorem wroteElsewhere {place : Nat} (apart : m.place ≠ place) :
    (s.wrote dims m records).tables[place]? = s.tables[place]? := by
  rw [wrote]
  split
  · rfl
  · exact List.getElem?_modify_ne _ _ apart

theorem wroteHere {before : List (String × FeatureValue)}
    (there : s.tables[m.place]? = some (setEntries before (newTable dims m.type))) :
    (s.wrote dims m records).tables[m.place]? =
      some (setEntries (before ++ records) (newTable dims m.type)) := by
  by_cases pooled : m.Pooled dims
  · rw [m.newPooled pooled, setEntriesVectors] at *
    rw [wrotePooled pooled]
    exact there
  · rw [wroteOwn pooled, List.getElem?_modify_eq, there, setEntriesAppend]
    rfl

theorem handleWritten :
    LocalStore.handle dims m.place (setEntries records (newTable dims m.type)) = m.handle dims := by
  rw [MadeTable.handle]
  by_cases pooled : m.Pooled dims
  · rw [m.newPooled pooled, setEntriesVectors]
  · rw [m.newOwn pooled, setEntriesValues]
    rfl

theorem handleSet (entity : String) (value : FeatureValue) :
    (((m.handle dims).set entity value).on s).2 = s.wrote dims m [(entity, value)] := by
  by_cases pooled : m.Pooled dims
  · rw [m.handlePooled pooled, vectorSetOn, wrotePooled pooled]
  · rw [m.handleOwn pooled, setOn, wroteOwn pooled]
    rfl

theorem handleSetBatch (records : List (String × FeatureValue)) :
    (((m.handle dims).setBatch records).on s).2 = s.wrote dims m records := by
  by_cases pooled : m.Pooled dims
  · rw [m.handlePooled pooled, vectorBatchOn, wrotePooled pooled]
  · rw [m.handleOwn pooled, setBatchOn, wroteOwn pooled]

def shows? (dims : Option Nat) (m : MadeTable) (s : LocalStore) (entity : String) : Option FeatureValue :=
  if m.Pooled dims then (s.vectors.find? entity).map .floats else s.valueAt? m.place entity

theorem handleGet (entity : String) :
    ((m.handle dims).get entity).on s = (m.answer dims entity (s.shows? dims m entity), s) := by
  by_cases pooled : m.Pooled dims
  · rw [m.handlePooled pooled, vectorGetOn, shows?, if_pos pooled]
    cases s.vectors.find? entity <;> simp [MadeTable.answer, pooled]
  · rw [m.handleOwn pooled, getOn, shows?, if_neg pooled]
    cases s.valueAt? m.place entity <;> simp [MadeTable.answer, pooled]

theorem createdEmpty {feature variant : String} {type : ValueType}
    {t : OnlineTable (StateM LocalStore)} {after : LocalStore}
    (own : ¬ (type = .floatVector ∧ dims.isSome))
    (new : (createTable dims feature variant type).on s = (.ok t, after)) (entity : String) :
    ((t.get entity).on after).1 = .error (.error (.notFound "entity" entity)) := by
  have table : newTable dims type = .values .empty := if_neg own
  rw [createTableOn, table] at new
  split at new <;> cases new
  have absent : valueAt? ⟨s.names.insert (onlineTableKey "" feature variant) s.tables.length,
      s.tables ++ [.values .empty], s.vectors⟩ s.tables.length entity = none := by
    rw [valueAt?, List.getElem?_concat_length]
    rfl
  rw [LocalStore.handle, getOn, absent]

end LocalStore

structure LocalSession where
  store : LocalStore
  held : List (Option (OnlineTable (StateM LocalStore)))
  history : OnlineHistory

namespace LocalSession
open OnlineHistory LocalStore

def start (initial : Vectors) : LocalSession := ⟨⟨.empty, [], initial⟩, [], []⟩

def step (dims : Option Nat) (x : LocalSession) (call : OnlineCall) : LocalSession :=
  let performed := (call.perform (LocalStore.store dims) x.held).run x.store
  ⟨performed.2, x.held ++ [performed.1.2], (call, performed.1.1) :: x.history⟩

def run (dims : Option Nat) (initial : Vectors) (calls : List OnlineCall) : LocalSession :=
  calls.foldl (step dims) (start initial)

structure Tracked (dims : Option Nat) (initial : Vectors) (x : LocalSession) : Prop where
  names (name : String) : x.store.names.find? name = (standing name x.history).map (·.place)
  tables (place : Nat) : x.store.tables[place]? =
    (made x.history)[place]?.map fun type => setEntries (written place x.history) (newTable dims type)
  vectors : x.store.vectors = initial.insertAll (OnlineHistory.vectors dims x.history)
  count : x.held.length = x.history.length
  handles (number : Nat) : x.held[number]?.join = (leads number x.history).map (·.handle dims)

theorem trackedStart (dims : Option Nat) (initial : Vectors) : (start initial).Tracked dims initial :=
  ⟨fun _ => rfl, fun _ => rfl, rfl, rfl, fun _ => rfl⟩

namespace Tracked
variable {dims : Option Nat} {initial : Vectors} {x : LocalSession}

theorem next (tracked : x.Tracked dims initial) {call : OnlineCall} {answer : OnlineAnswer}
    {handle : Option (OnlineTable (StateM LocalStore))} {after : LocalStore}
    (performed : (call.perform (LocalStore.store dims) x.held).run x.store = ((answer, handle), after))
    (names : ∀ name, after.names.find? name =
      (standing name ((call, answer) :: x.history)).map (·.place))
    (tables : ∀ place, after.tables[place]? = (made ((call, answer) :: x.history))[place]?.map
      fun type => setEntries (written place ((call, answer) :: x.history)) (newTable dims type))
    (vectors : after.vectors =
      initial.insertAll (OnlineHistory.vectors dims ((call, answer) :: x.history)))
    (gave : handle = (gives? x.history (call, answer)).map (·.handle dims)) :
    (x.step dims call).Tracked dims initial := by
  have stepped : x.step dims call = ⟨after, x.held ++ [handle], (call, answer) :: x.history⟩ := by
    simp only [step, performed]
  rw [stepped]
  refine ⟨names, tables, vectors, by simp [tracked.count], fun number => ?_⟩
  have old := tracked.handles number
  rw [leads]
  rcases Nat.lt_trichotomy number x.history.length with inside | here | beyond
  · rw [if_neg (Nat.ne_of_lt inside), List.getElem?_append_left (tracked.count ▸ inside), old]
  · rw [if_pos here, ← gave, here, ← tracked.count]
    simp
  · rw [if_neg (Nat.ne_of_gt beyond), ← old, List.getElem?_eq_none, List.getElem?_eq_none]
    · rw [tracked.count]
      exact Nat.le_of_lt beyond
    · rw [List.length_append, tracked.count]
      exact beyond

theorem quiet (tracked : x.Tracked dims initial) {call : OnlineCall} {answer : OnlineAnswer}
    {handle : Option (OnlineTable (StateM LocalStore))}
    (performed : (call.perform (LocalStore.store dims) x.held).run x.store = ((answer, handle), x.store))
    (unreached : reached? call x.history = none)
    (same : made ((call, answer) :: x.history) = made x.history)
    (names : ∀ name, standing name ((call, answer) :: x.history) = standing name x.history)
    (gave : handle = (gives? x.history (call, answer)).map (·.handle dims)) :
    (x.step dims call).Tracked dims initial := by
  have apart {p : MadeTable → Prop} : ∀ m, reached? call x.history = some m → p m := by simp [unreached]
  refine tracked.next performed (fun name => ?_) (fun place => ?_) ?_ gave
  · rw [names]
    exact tracked.names name
  · rw [same, writtenApart apart]
    exact tracked.tables place
  · rw [vectorsApart apart]
    exact tracked.vectors

theorem places (tracked : x.Tracked dims initial) : x.store.tables.length = (made x.history).length := by
  refine Nat.le_antisymm ?_ ?_
  · rw [← List.getElem?_eq_none_iff, tracked.tables, List.getElem?_eq_none (Nat.le_refl _)]
    rfl
  · rw [← List.getElem?_eq_none_iff]
    have none := tracked.tables x.store.tables.length
    rw [List.getElem?_eq_none (Nat.le_refl _)] at none
    exact Option.map_eq_none_iff.mp none.symm

theorem tableNamed (tracked : x.Tracked dims initial) (name : String) :
    x.store.tableNamed? name = (standing name x.history).map fun m =>
      (m.place, setEntries (written m.place x.history) (newTable dims m.type)) := by
  have named := tracked.names name
  cases stands : standing name x.history with
  | none =>
    rw [stands] at named
    exact tableNamedNone named
  | some m =>
    rw [stands] at named
    refine tableNamedIff.mpr ⟨named, ?_⟩
    rw [tracked.tables, standingMade stands]
    rfl

theorem createTable (tracked : x.Tracked dims initial) (feature variant : String) (type : ValueType) :
    (x.step dims (.createTable feature variant type)).Tracked dims initial := by
  have performed := Task.onAnswer opened (LocalStore.createTable dims feature variant type) x.store
  rw [createTableOn] at performed
  split at performed
  · exact tracked.quiet performed rfl rfl (fun _ => rfl) rfl
  have places := tracked.places
  refine tracked.next performed (fun name => ?_) (fun place => ?_) tracked.vectors ?_
  · rw [Bindings.findInsert, standing, places]
    split
    · rfl
    · exact tracked.names name
  · -- The new place comes after all others, where nothing was written yet.
    rw [writtenApart (fun m reached => by cases reached), made]
    rcases Nat.lt_trichotomy place (made x.history).length with inside | here | beyond
    · rw [List.getElem?_append_left inside, List.getElem?_append_left (places ▸ inside)]
      exact tracked.tables place
    · subst here
      rw [writtenUnmade (Nat.le_refl _), List.getElem?_concat_length, ← places, List.getElem?_concat_length]
      rfl
    · rw [List.getElem?_eq_none, List.getElem?_eq_none]
      · rfl
      · rw [List.length_append]
        exact beyond
      · rw [List.length_append, places]
        exact beyond
  · rw [places]
    rfl

theorem getTable (tracked : x.Tracked dims initial) (feature variant : String) :
    (x.step dims (.getTable feature variant)).Tracked dims initial := by
  have performed := Task.onAnswer opened (LocalStore.getTable dims feature variant) x.store
  rw [getTableOn, tracked.tableNamed] at performed
  cases stands : standing (onlineTableKey "" feature variant) x.history with
  | none =>
    rw [stands] at performed
    exact tracked.quiet performed rfl rfl (fun _ => rfl) rfl
  | some m =>
    rw [stands] at performed
    refine tracked.quiet performed rfl rfl (fun _ => rfl) ?_
    rw [handleWritten, gives?, stands]
    rfl

theorem deleteTable (tracked : x.Tracked dims initial) (feature variant : String) :
    (x.step dims (.deleteTable feature variant)).Tracked dims initial := by
  have performed := Task.onAnswer (closed (m := StateM LocalStore))
    (LocalStore.deleteTable feature variant) x.store
  rw [deleteTableOn] at performed
  split at performed
  · refine tracked.next performed (fun name => ?_) tracked.tables tracked.vectors rfl
    rw [Bindings.findErase, standing]
    split
    · rfl
    · exact tracked.names name
  · exact tracked.quiet performed rfl rfl (fun _ => rfl) rfl

theorem handled (tracked : x.Tracked dims initial) {call : OnlineCall} {number : Nat}
    {use : OnlineTable (StateM LocalStore) →
      StateM LocalStore (OnlineAnswer × Option (OnlineTable (StateM LocalStore)))}
    (performs : call.perform (LocalStore.store dims) x.held = through x.held number use)
    (handled : call.handle? = some number)
    (writes : ∀ m : MadeTable, ∃ answer, (use (m.handle dims)).run x.store =
      ((answer, none), x.store.wrote dims m call.records)) :
    (x.step dims call).Tracked dims initial := by
  have performed := congrArg (fun action => StateT.run action x.store) performs
  simp only [through, tracked.handles] at performed
  cases led : leads number x.history with
  | none =>
    rw [led] at performed
    obtain ⟨same, names, gives⟩ := handledSame (h := x.history) handled .noHandle
    refine tracked.quiet performed ?_ same names (by rw [gives]; rfl)
    rw [reached?, handled, Option.bind_some, led]
  | some m =>
    obtain ⟨answer, ran⟩ := writes m
    rw [led] at performed
    simp only [Option.map_some] at performed
    rw [ran] at performed
    obtain ⟨same, names, gives⟩ := handledSame (h := x.history) handled answer
    have reached : reached? call x.history = some m := by rw [reached?, handled, Option.bind_some, led]
    refine tracked.next performed (fun name => ?_) (fun place => ?_) ?_ (by rw [gives]; rfl)
    · rw [names]
      exact tracked.names name
    · rw [same]
      by_cases here : m.place = place
      · -- Writing keeps the kind of a table, so that its entries are all that changes.
        subst here
        have there := tracked.tables m.place
        rw [reachedMade reached] at there ⊢
        rw [writtenReached reached, wroteHere there]
        rfl
      · have others : ∀ other, reached? call x.history = some other → other.place ≠ place := by
          simpa [reached] using here
        rw [writtenApart others, wroteElsewhere here]
        exact tracked.tables place
    · rw [vectorsReached reached, insertAllAppend, ← tracked.vectors]
      rfl

theorem step (tracked : x.Tracked dims initial) (call : OnlineCall) :
    (x.step dims call).Tracked dims initial := by
  cases call with
  | createTable feature variant type => exact tracked.createTable feature variant type
  | getTable feature variant => exact tracked.getTable feature variant
  | deleteTable feature variant => exact tracked.deleteTable feature variant
  | set number entity value =>
    refine tracked.handled rfl rfl fun m => ?_
    have performed := Task.onAnswer (closed (m := StateM LocalStore))
      ((m.handle dims).set entity value) x.store
    exact ⟨_, performed.trans (Prod.ext (Prod.ext rfl (closedNone _)) (handleSet entity value))⟩
  | get number entity =>
    refine tracked.handled rfl rfl fun m => ?_
    have performed := Task.onAnswer (valued (m := StateM LocalStore)) ((m.handle dims).get entity) x.store
    rw [handleGet, valuedShown] at performed
    exact ⟨_, performed.trans (congrArg (Prod.mk _) wroteNothing.symm)⟩
  | setBatch number records =>
    refine tracked.handled rfl rfl fun m => ?_
    have performed := Task.onAnswer (closed (m := StateM LocalStore))
      ((m.handle dims).setBatch records) x.store
    exact ⟨_, performed.trans (Prod.ext (Prod.ext rfl (closedNone _)) (handleSetBatch records))⟩

theorem steps (tracked : x.Tracked dims initial) (calls : List OnlineCall) :
    (calls.foldl (LocalSession.step dims) x).Tracked dims initial := by
  induction calls generalizing x with
  | nil => exact tracked
  | cons call rest ih => exact ih (tracked.step call)

theorem shows (tracked : x.Tracked dims initial) {m : MadeTable}
    (there : (made x.history)[m.place]? = some m.type) (entity : String) :
    x.store.shows? dims m entity = contents? dims initial x.history m entity := by
  rw [shows?, contents?]
  by_cases pooled : m.Pooled dims
  · rw [if_pos pooled, if_pos pooled, tracked.vectors, findInsertAll]
  · have table := tracked.tables m.place
    rw [there, Option.map_some, m.newOwn pooled, setEntriesValues] at table
    rw [if_neg pooled, if_neg pooled, valueAt?, table]
    simp only [findInsertAll, findEmpty, Option.or_none]

end Tracked

theorem trackedRun (dims : Option Nat) (initial : Vectors) (calls : List OnlineCall) :
    (run dims initial calls).Tracked dims initial := (trackedStart dims initial).steps calls

/- A handle reads what was written to its table. A call that reaches another table changes nothing of
that, unless both tables are over the embedding store. -/
structure Reads (dims : Option Nat) (initial : Vectors) (x : LocalSession)
    (t : OnlineTable (StateM LocalStore)) (m : MadeTable) : Prop where
  answers (entity : String) : (t.get entity).on x.store =
    (m.answer dims entity (contents? dims initial x.history m entity), x.store)
  apart (call : OnlineCall) :
    (∀ other, reached? call x.history = some other →
      other.place ≠ m.place ∧ ¬ (other.Pooled dims ∧ m.Pooled dims)) →
    ∀ entity, ((t.get entity).on (x.step dims call).store).1 = ((t.get entity).on x.store).1

def OnlyWritten (x : LocalSession) : Prop :=
  ∀ number t entity value after, x.held[number]?.join = some t →
    (t.get entity).on x.store = (.ok value, after) →
      ∃ m, leads number x.history = some m ∧ ∃ r ∈ written m.place x.history, r.1 = entity

def Lone (h : OnlineHistory) : Prop :=
  ∀ i j : Nat, (made h)[i]? = some .floatVector → (made h)[j]? = some .floatVector → i = j

section
variable {dims : Option Nat} {initial : Vectors} {x : LocalSession} {m : MadeTable}

theorem contentsApart {e : OnlineCall × OnlineAnswer} {h : OnlineHistory}
    (apart : ∀ other, reached? e.1 h = some other →
      other.place ≠ m.place ∧ ¬ (other.Pooled dims ∧ m.Pooled dims)) (entity : String) :
    contents? dims initial (e :: h) m entity = contents? dims initial h m entity := by
  rw [contents?, contents?]
  by_cases pooled : m.Pooled dims
  · have own : ∀ other, reached? e.1 h = some other → ¬ other.Pooled dims :=
      fun other reached both => (apart other reached).2 ⟨both, pooled⟩
    rw [if_pos pooled, if_pos pooled, vectorsApart own]
  · rw [if_neg pooled, if_neg pooled, writtenApart fun other reached => (apart other reached).1]

theorem Tracked.reads (tracked : x.Tracked dims initial)
    (there : (made x.history)[m.place]? = some m.type) : Reads dims initial x (m.handle dims) m := by
  refine ⟨fun entity => by rw [handleGet, tracked.shows there], fun call apart entity => ?_⟩
  have later := (tracked.step call).shows (madeStays _ there) entity
  rw [handleGet, handleGet, later, tracked.shows there, LocalSession.step, contentsApart apart]

theorem contentsFrom {h : OnlineHistory} {entity : String} {value : FeatureValue}
    (found : contents? dims initial h m entity = some value) :
    (¬ m.Pooled dims ∧ ∃ r ∈ written m.place h, r.1 = entity) ∨
      m.Pooled dims ∧ ((initial.find? entity).isSome ∨
        ∃ place, (made h)[place]? = some .floatVector ∧ ∃ r ∈ written place h, r.1 = entity) := by
  rw [contents?] at found
  split at found <;> rename_i pooled
  · refine .inr ⟨pooled, ?_⟩
    obtain ⟨vector, kept, -⟩ := Option.map_eq_some_iff.mp found
    cases last : last? (vectors dims h) entity with
    | none =>
      rw [last, Option.none_or] at kept
      exact .inl (kept ▸ rfl)
    | some v =>
      exact .inr (vectorWritten (lastSome last))
  · exact .inl ⟨pooled, (entity, value), lastSome found, rfl⟩

theorem Tracked.onlyWritten (tracked : x.Tracked dims initial)
    (alone : dims = none ∨ initial = .empty ∧ Lone x.history) : x.OnlyWritten := by
  intro number t entity value after held read
  rw [tracked.handles, Option.map_eq_some_iff] at held
  obtain ⟨m, led, rfl⟩ := held
  refine ⟨m, led, ?_⟩
  have there := leadsMade led
  have found : contents? dims initial x.history m entity = some value := by
    rw [(tracked.reads there).answers] at read
    have answered := (Prod.mk.inj read).1
    rw [MadeTable.answer.eq_def] at answered
    split at answered
    · cases answered
      assumption
    · cases answered
  rcases contentsFrom found with ⟨-, written⟩ | ⟨pooled, before | ⟨place, made, written⟩⟩
  · exact written
  all_goals
    rcases alone with rfl | ⟨rfl, lone⟩
    · cases pooled.2
  · cases before
  · rwa [lone m.place place (pooled.1 ▸ there) made]

end

/-- Handles read what was written to their tables, in a run of any calls; a new table of values has
nothing, and handles read only what was written to their own tables if the store has no embedding store,
or one that was empty and no two tables of vectors. -/
theorem handlesReadWritten (dims : Option Nat) (initial : Vectors) (calls : List OnlineCall) :
    let x := run dims initial calls
    (∀ number t, x.held[number]?.join = some t →
      ∃ m, leads number x.history = some m ∧ Reads dims initial x t m) ∧
    (∀ feature variant type t after,
      (LocalStore.createTable dims feature variant type).on x.store = (.ok t, after) →
        ¬ (type = .floatVector ∧ dims.isSome) → ∀ entity,
          ((t.get entity).on after).1 = .error (.error (.notFound "entity" entity))) ∧
    (dims = none ∨ initial = .empty ∧ Lone x.history → x.OnlyWritten) := by
  intro x
  have tracked : x.Tracked dims initial := trackedRun dims initial calls
  refine ⟨fun number t held => ?_, fun feature variant type t after new own entity => ?_,
    tracked.onlyWritten⟩
  · rw [tracked.handles, Option.map_eq_some_iff] at held
    obtain ⟨m, led, rfl⟩ := held
    exact ⟨m, led, tracked.reads (leadsMade led)⟩
  · exact createdEmpty own new entity

def balanceCalls : List OnlineCall :=
  [.createTable "balance" "v1" .int, .createTable "face" "v1" .floatVector,
    .set 0 "alice" (.int 5), .set 1 "alice" (.ints [1, 2]), .getTable "balance" "v1"]

theorem handlesReadWrittenBalance :
    let x := run (some 2) .empty balanceCalls
    Lone x.history ∧ x.OnlyWritten ∧
      (∃ t, x.held[4]?.join = some t ∧ (t.get "alice").on x.store = (.ok (.int 5), x.store)) ∧
      ∃ t after, (LocalStore.createTable (some 2) "balance" "v2" .int).on x.store = (.ok t, after) ∧
        ((t.get "alice").on after).1 = .error (.error (.notFound "entity" "alice")) := by
  intro x
  have lone : Lone x.history := by
    have tables : made x.history = [.int, .floatVector] := rfl
    have second (i : Nat) (vectors : (made x.history)[i]? = some .floatVector) : i = 1 := by
      rw [tables] at vectors
      match i with
      | 0 => cases vectors
      | 1 => rfl
    exact fun i j first other => (second i first).trans (second j other).symm
  obtain ⟨reads, fresh, only⟩ := handlesReadWritten (some 2) .empty balanceCalls
  obtain ⟨m, led, read⟩ := reads 4 _ rfl
  cases led
  exact ⟨lone, only (.inr ⟨rfl, lone⟩), ⟨_, rfl, read.answers "alice"⟩, _, _, rfl,
    fresh "balance" "v2" .int _ _ rfl (by decide) "alice"⟩

def faceCalls : List OnlineCall :=
  [.createTable "face" "v1" .floatVector, .set 0 "alice" (.ints [1, 2]),
    .createTable "voice" "v1" .floatVector]

theorem vectorsShared : ¬ (run (some 2) .empty faceCalls).OnlyWritten := by
  intro only
  obtain ⟨m, led, r, mem, -⟩ := only 2 _ "alice" _ _ rfl rfl
  cases led
  cases mem

end LocalSession
end FeatureStore
