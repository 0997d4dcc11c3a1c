import FeatureStore.Job.Copy
import FeatureStore.Proofs.Host
import FeatureStore.Proofs.Job.Chunk
import FeatureStore.Proofs.Online.Local

/-!
Copying a chunk of a snapshot into a table of values on a host. The chunk always succeeds, and it
writes the records of its slice and nothing else.
-/
namespace FeatureStore

namespace Host

def offline (place : Nat) : OfflineStore (StateM Host) := Memory.store.lift (onMemory place)

def localStore (dims : Option Nat) (place : Nat) : OnlineStore (StateM Host) :=
  (LocalStore.store dims).lift (onLocal place)

def online (place : Nat) : OnlineStore (StateM Host) := (LocalStore.store none).lift (onLocal place)

theorem offlineOfProvider (place : Nat) (config : SerializedConfig) :
    ((Memory.provider config).lift (onMemory place)).offline = .ok (offline place) := rfl

theorem onlineOfProvider (place : Nat) (config : SerializedConfig) :
    ((LocalStore.provider none config).lift (onLocal place)).online = .ok (online place) := rfl

def snapshot (place : Nat) (id : MaterializationId) (rows : List ResourceRecord) :
    Materialization (StateM Host) :=
  Materialization.lift (onMemory place) (Memory.materialization id rows)

theorem snapshotRowsOn (p : Nat) (id : MaterializationId) (rows : List ResourceRecord) (h : Host) :
    (snapshot p id rows).numRows.on h = (.ok (.ofNat rows.length), h) := by
  simp [snapshot, Materialization.lift, Memory.materialization, onMemoryAt]

theorem createTableOn (dims : Option Nat) (q : Nat) (feature variant : String) (type : ValueType)
    (h : Host) :
    ((localStore dims q).createTable feature variant type).on h =
      if (h.localAt q).names.contains (onlineTableKey "" feature variant) then
        (.error (.error (.alreadyExists "online table" (onlineTableKey "" feature variant))), h)
      else
        (.ok (OnlineTable.lift (onLocal q) (LocalStore.handle dims (h.localAt q).tables.length
            (LocalStore.newTable dims type))),
          h.putLocal q { h.localAt q with
            tables := (h.localAt q).tables ++ [LocalStore.newTable dims type]
            names := (h.localAt q).names.insert (onlineTableKey "" feature variant)
              (h.localAt q).tables.length }) := by
  simp only [localStore, OnlineStore.lift, LocalStore.store, Task.onMap, onLocalAt,
    LocalStore.createTableOn]
  by_cases taken : (h.localAt q).names.contains (onlineTableKey "" feature variant) = true <;>
    simp [taken, Except.map]

theorem getTableOn (dims : Option Nat) (q : Nat) (feature variant : String) (h : Host) :
    ((localStore dims q).getTable feature variant).on h =
      match (h.localAt q).tableNamed? (onlineTableKey "" feature variant) with
      | some (place, t) => (.ok (OnlineTable.lift (onLocal q) (LocalStore.handle dims place t)), h)
      | none => (.error (.error (.notFound "online table" (onlineTableKey "" feature variant))), h) := by
  simp only [localStore, OnlineStore.lift, LocalStore.store, Task.onMap, onLocalAt, LocalStore.getTableOn]
  rcases (h.localAt q).tableNamed? (onlineTableKey "" feature variant) with _ | ⟨place, t⟩ <;>
    simp [Except.map]

end Host

theorem Runner.outcomeOn {σ : Type} (r : Runner (StateM σ)) (s : σ) :
    r.outcome.run s =
      (match (r.body.on s).1 with
        | .ok () => .success
        | .error (.error e) => .failure e.message
        | .error .panic => .panic, (r.body.on s).2) := by
  have split : r.outcome.run s = (match (r.body.on s).1 with
      | .ok () => pure Outcome.success
      | .error (.error e) => pure (.failure e.message)
      | .error .panic => pure .panic : StateM σ Outcome).run (r.body.on s).2 := rfl
  rw [split]
  rcases (r.body.on s).1 with (e | _) | _ <;> rfl

theorem Runner.waitOn {σ : Type} (r : Runner (StateM σ)) (s : σ) :
    r.wait.run s =
      (match (r.body.on s).1 with
        | .ok () => .ok ()
        | .error (.error e) => .error (.jobFailed r.job e.message)
        | .error .panic => .error (.jobFailed r.job "job panicked"), (r.body.on s).2) := by
  have opened : r.wait.run s =
      (Watcher.result r.job (r.outcome.run s).1.status, (r.outcome.run s).2) := rfl
  rw [opened, r.outcomeOn]
  rcases (r.body.on s).1 with (e | _) | _ <;> rfl

namespace Memory

theorem segmentOfWords (id : MaterializationId) (records : List ResourceRecord) {first last : Nat}
    (le : first ≤ last) (small : last < 2 ^ 63) :
    segmentOf id records (.ofNat first) (.ofNat last) = .ok ((records.take last).drop first) := by
  have notNegative : ¬ Int64.ofNat first < 0 :=
    Int64.not_lt.mpr (Chunk.wordNatural (Nat.lt_of_le_of_lt le small))
  have ordered : ¬ Int64.ofNat last < Int64.ofNat first := by
    rw [Chunk.wordLt small (Nat.lt_of_le_of_lt le small)]
    omega
  simp only [segmentOf, notNegative, ordered, decide_false, Bool.or_self, Bool.false_eq_true, if_false]
  rw [Int64.toNatClampNeg_ofNat_of_lt small, Int64.toNatClampNeg_ofNat_of_lt (by omega)]

end Memory

namespace LocalStore

def writeAll (place : Nat) (records : List (String × FeatureValue)) (s : LocalStore) : LocalStore :=
  { s with tables := s.tables.modify place (setEntries records) }

theorem writeNothing (place : Nat) (s : LocalStore) : s.writeAll place [] = s := by
  have same : setEntries [] = id := rfl
  simp [writeAll, same]

theorem writeAllNamed {s : LocalStore} {key : String} {place : Nat}
    {entries : Bindings String FeatureValue} (records : List (String × FeatureValue))
    (named : s.tableNamed? key = some (place, .values entries)) :
    (s.writeAll place records).tableNamed? key = some (place, .values (entries.insertAll records)) := by
  obtain ⟨found, there⟩ := tableNamedIff.mp named
  refine tableNamedIff.mpr ⟨found, ?_⟩
  rw [← setEntriesValues]
  simp [writeAll, there]

end LocalStore

namespace Copy

def entry (r : ResourceRecord) : String × FeatureValue := (r.entity, r.value)

theorem entriesOk (rows : List ResourceRecord) :
    entries (rows.map .ok) = .ok (rows.map entry) := by
  induction rows with
  | nil => rfl
  | cons r rest ih => simp [entries, ih, entry, bind, Except.bind]

theorem cutSlice (size index : Nat) (rows : List ResourceRecord) :
    (rows.take (min (index * size + size) rows.length)).drop (index * size) =
      Chunk.slice size index rows := by
  rw [List.drop_take, Chunk.slice, List.take_eq_take_iff, List.length_drop]
  omega

theorem slicePast {size index : Nat} {rows : List ResourceRecord} (past : rows.length ≤ index * size) :
    Chunk.slice size index rows = [] := by
  simp [Chunk.slice, List.drop_eq_nil_of_le past]

variable {rows : List ResourceRecord} {size : Int64} {index p q place : Nat} {resource : ResourceId}
  {entries : Bindings String FeatureValue} {h : Host}

theorem sliceOn {online : OnlineStore (StateM Host)} {table : OnlineTable (StateM Host)}
    (id : MaterializationId) (small : rows.length < 2 ^ 63) (positive : 0 < size) (word : index < 2 ^ 63)
    (got : (online.getTable resource.name resource.variant).on h = (.ok table, h))
    (nothing : (table.setBatch []).on h = (.ok (), h)) :
    (body (pure (Host.snapshot p id rows)) online resource ⟨size, .ofNat index⟩).on h =
      (table.setBatch ((Chunk.slice size.toNatClampNeg index rows).map entry)).on h := by
  simp only [body, Host.snapshot, Materialization.lift, Memory.materialization, Task.onBind, Task.onPure,
    got, Host.onMemoryAt, Host.putMemorySame, Chunk.rangeOf positive small word]
  split
  · rename_i past
    split at past <;> try contradiction
    rename_i behind
    simp [slicePast behind, nothing]
  · rename_i first last within
    split at within <;> try contradiction
    rename_i inside
    cases Option.some.inj within
    rw [Memory.segmentOfWords _ _ (by omega) (by omega), cutSlice]
    simp only [Host.onMemoryAt, Task.onBind, Task.onExcept, Task.mapErrorOk, Task.onPure,
      Host.putMemorySame, entriesOk]

theorem copyOn (id : MaterializationId) (small : rows.length < 2 ^ 63) (positive : 0 < size)
    (word : index < 2 ^ 63)
    (named : (h.localAt q).tableNamed? (onlineTableKey "" resource.name resource.variant) =
      some (place, .values entries)) :
    (body (pure (Host.snapshot p id rows)) (Host.online q) resource ⟨size, .ofNat index⟩).on h =
      (.ok (), h.putLocal q ((h.localAt q).writeAll place
        ((Chunk.slice size.toNatClampNeg index rows).map entry))) := by
  have got : ((Host.online q).getTable resource.name resource.variant).on h =
      (.ok (OnlineTable.lift (Host.onLocal q) (LocalStore.valueTable place)), h) := by
    have found := Host.getTableOn none q resource.name resource.variant h
    rw [named] at found
    exact found
  have batch (records : List (String × FeatureValue)) :
      ((OnlineTable.lift (Host.onLocal q) (LocalStore.valueTable place)).setBatch records).on h =
        (.ok (), h.putLocal q ((h.localAt q).writeAll place records)) := by
    simp only [OnlineTable.lift, Host.onLocalAt, LocalStore.setBatchOn]
    rfl
  rw [sliceOn id small positive word got, batch]
  rw [batch, LocalStore.writeNothing, Host.putLocalSame]

theorem waitOn (id : MaterializationId) (small : rows.length < 2 ^ 63) (positive : 0 < size)
    (word : index < 2 ^ 63)
    (named : (h.localAt q).tableNamed? (onlineTableKey "" resource.name resource.variant) =
      some (place, .values entries)) :
    (runner (pure (Host.snapshot p id rows)) (Host.online q) resource ⟨size, .ofNat index⟩).wait.run h =
      (.ok (), h.putLocal q ((h.localAt q).writeAll place
        ((Chunk.slice size.toNatClampNeg index rows).map entry))) := by
  rw [Runner.waitOn, runner, copyOn id small positive word named]

end Copy
end FeatureStore
