import FeatureStore.Job.Materialize
import FeatureStore.Proofs.Job.Copy
import FeatureStore.Proofs.Offline.Memory

/-!
A job that materializes a feature, on a host with both stores in memory. It fails before it copies
anything, or it copies every slice of the snapshot that it has built, in the order of its chunks.
-/
namespace FeatureStore

namespace LocalStore

theorem writeAllTwice (place : Nat) (a b : List (String × FeatureValue)) (s : LocalStore) :
    (s.writeAll place a).writeAll place b = s.writeAll place (a ++ b) := by
  have joined : setEntries (a ++ b) = setEntries b ∘ setEntries a := by
    funext t
    simp [setEntries]
  simp only [writeAll, joined, List.modify_modify_eq]

end LocalStore

namespace Materialize

def written (size : Nat) (order : List Nat) (rows : List ResourceRecord) : List (String × FeatureValue) :=
  order.flatMap fun index => (Chunk.slice size index rows).map Copy.entry

variable {rows : List ResourceRecord} {size : Int64} {p q place : Nat} {resource : ResourceId}
  {entries : Bindings String FeatureValue} {h : Host}

theorem copyEachCons (mat : Materialization (StateM Host)) (online : OnlineStore (StateM Host))
    (resource : ResourceId) (size : Int64) (index : Nat) (rest : List Nat) (h : Host) :
    (copyEach mat online resource size (index :: rest)).run h =
      let one := (Copy.runner (pure mat) online resource ⟨size, .ofNat index⟩).wait.run h
      let more := (copyEach mat online resource size rest).run one.2
      ((index, one.1) :: more.1, more.2) := rfl

theorem copyEachOn (id : MaterializationId) (small : rows.length < 2 ^ 63) (positive : 0 < size)
    (inside : q < h.locals.length) {order : List Nat} (words : ∀ index ∈ order, index < 2 ^ 63)
    (named : (h.localAt q).tableNamed? (onlineTableKey "" resource.name resource.variant) =
      some (place, .values entries)) :
    (copyEach (Host.snapshot p id rows) (Host.online q) resource size order).run h =
      (order.map fun index => (index, .ok ()),
        h.putLocal q ((h.localAt q).writeAll place (written size.toNatClampNeg order rows))) := by
  induction order generalizing h entries with
  | nil =>
    have nothing : copyEach (Host.snapshot p id rows) (Host.online q) resource size [] = pure [] := rfl
    simp only [nothing, StateT.run_pure, written, List.map_nil, List.flatMap_nil,
      LocalStore.writeNothing, Host.putLocalSame]
    rfl
  | cons index rest ih =>
    have first := Copy.waitOn (p := p) id small positive (words index (by simp)) named
    rw [copyEachCons, first]
    have after := Host.localAtPut inside ((h.localAt q).writeAll place
      ((Chunk.slice size.toNatClampNeg index rows).map Copy.entry))
    have next := ih (h := h.putLocal q ((h.localAt q).writeAll place
      ((Chunk.slice size.toNatClampNeg index rows).map Copy.entry)))
      (by simpa [Host.putLocal] using inside) (fun i mem => words i (by simp [mem]))
      (by rw [after]; exact LocalStore.writeAllNamed _ named)
    simp only [next, after, Host.putLocalTwice, LocalStore.writeAllTwice, written, List.map_cons,
      List.flatMap_cons]

theorem reportOk {count : Nat} {order : List Nat} :
    report count (order.map fun index => (index, .ok ())) = .ok () := by
  have looked (i : Nat) (e : Error) :
      (order.map fun index => (index, (.ok () : Except Error Unit))).lookup i ≠ some (.error e) := by
    induction order with
    | nil => simp
    | cons index rest ih =>
      simp only [List.map_cons, List.lookup_cons]
      split
      · simp
      · exact ih
  have none : failures count (order.map fun index => (index, .ok ())) = [] := by
    refine List.filterMap_eq_nil_iff.mpr ?_
    intro i _
    split
    · exact absurd ‹_› (looked i _)
    · rfl
  simp [report, none]

def build (c : MaterializeConfig) (m : Memory) : Except Error (List ResourceRecord) :=
  let id := MaterializationId.ofResource c.resource
  if !c.isUpdate && m.materializations.contains id then .error (.alreadyExists "materialization" id.text)
  else m.snapshot c.resource

theorem buildOn (c : MaterializeConfig) (m : Memory) :
    (if c.isUpdate then Memory.updateMaterialization c.resource
      else Memory.createMaterialization c.resource).on m =
      match build c m with
      | .error e => Memory.failed e m
      | .ok rows => (.ok (Memory.materialization (.ofResource c.resource) rows),
          m.putMaterialization (.ofResource c.resource) rows) := by
  unfold build
  cases c.isUpdate
  · simp only [Bool.false_eq_true, if_false, Memory.createMaterializationOn, Bool.not_false, Bool.true_and]
    split <;> rfl
  · simp only [if_true, Memory.updateMaterializationOn]
    rfl

def ready (c : MaterializeConfig) (s : LocalStore) : Except Error (Nat × LocalStore) :=
  let key := onlineTableKey "" c.resource.name c.resource.variant
  match c.isUpdate, s.tableNamed? key with
  | true, some (place, _) => .ok (place, s)
  | _, _ =>
    if s.names.contains key then .error (.alreadyExists "online table" key)
    else .ok (s.tables.length,
      { s with
        tables := s.tables ++ [.values .empty]
        names := s.names.insert key s.tables.length })

def readyIn (dims : Option Nat) (c : MaterializeConfig) (s : LocalStore) : Except Error (Nat × LocalStore) :=
  let key := onlineTableKey "" c.resource.name c.resource.variant
  match c.isUpdate, s.tableNamed? key with
  | true, some (place, _) => .ok (place, s)
  | _, _ =>
    if s.names.contains key then .error (.alreadyExists "online table" key)
    else .ok (s.tables.length,
      { s with
        tables := s.tables ++ [LocalStore.newTable dims c.valueType]
        names := s.names.insert key s.tables.length })

theorem readyPlain (c : MaterializeConfig) (s : LocalStore) : readyIn none c s = ready c s := by
  simp [readyIn, ready, LocalStore.newTable]

theorem createOn (dims : Option Nat) (c : MaterializeConfig) (q : Nat) (h : Host) :
    (do
      let _ ← (Host.localStore dims q).createTable c.resource.name c.resource.variant c.valueType
      return () : Task (StateM Host) Unit).on h =
      if (h.localAt q).names.contains (onlineTableKey "" c.resource.name c.resource.variant) then
        (.error (.error (.alreadyExists "online table"
          (onlineTableKey "" c.resource.name c.resource.variant))), h)
      else (.ok (), h.putLocal q { h.localAt q with
        tables := (h.localAt q).tables ++ [LocalStore.newTable dims c.valueType]
        names := (h.localAt q).names.insert (onlineTableKey "" c.resource.name c.resource.variant)
          (h.localAt q).tables.length }) := by
  simp only [Task.onBind, Host.createTableOn]
  by_cases taken : (h.localAt q).names.contains
    (onlineTableKey "" c.resource.name c.resource.variant) = true <;> simp [taken]

theorem ensureInOn (dims : Option Nat) (c : MaterializeConfig) (q : Nat) (h : Host) :
    (ensureTable (Host.localStore dims q) c.resource c.valueType c.isUpdate).on h =
      match readyIn dims c (h.localAt q) with
      | .error e => (.error (.error e), h)
      | .ok (_, s) => (.ok (), h.putLocal q s) := by
  unfold readyIn ensureTable
  cases c.isUpdate with
  | false =>
    simp only [Bool.false_eq_true, if_false, createOn]
    split <;> rfl
  | true =>
    simp only [if_true, Task.onBind, Task.onCaught, Host.getTableOn]
    rcases (h.localAt q).tableNamed? (onlineTableKey "" c.resource.name c.resource.variant) with
      _ | ⟨place, t⟩
    · simp only [Error.isNotFound, if_true, createOn]
      split <;> rfl
    · simp

theorem ensureOn (c : MaterializeConfig) (q : Nat) (h : Host) :
    (ensureTable (Host.online q) c.resource c.valueType c.isUpdate).on h =
      match ready c (h.localAt q) with
      | .error e => (.error (.error e), h)
      | .ok (_, s) => (.ok (), h.putLocal q s) := by
  rw [← readyPlain]
  exact ensureInOn none c q h

structure Plan where
  config : MaterializeConfig
  positive : 0 < config.chunkSize
  arrange : List Nat → List Nat
  arranged : ∀ count, (arrange (List.range count)).Perm (List.range count)

namespace Plan

def key (j : Plan) : String := onlineTableKey "" j.config.resource.name j.config.resource.variant

def order (j : Plan) (rows : Nat) : List Nat :=
  j.arrange (List.range (Chunk.cover rows j.config.chunkSize.toNatClampNeg))

def copied (j : Plan) (rows : List ResourceRecord) : List (String × FeatureValue) :=
  written j.config.chunkSize.toNatClampNeg (j.order rows.length) rows

def runner (j : Plan) (p q : Nat) : Runner (StateM Host) :=
  ⟨JobKind.materialize.name, body j.arrange (Host.offline p) (Host.online q) j.config⟩

theorem orderMem {j : Plan} {rows index : Nat} :
    index ∈ j.order rows ↔ index * j.config.chunkSize.toNatClampNeg < rows := by
  rw [order, (j.arranged _).mem_iff, List.mem_range,
    Chunk.coverTight (Chunk.sizeOfPositive j.positive).2.1]

theorem orderWords {j : Plan} {rows : Nat} (small : rows < 2 ^ 63) : ∀ index ∈ j.order rows, index < 2 ^ 63 := by
  intro index mem
  have begins := orderMem.mp mem
  have grows : index * 1 ≤ index * j.config.chunkSize.toNatClampNeg :=
    Nat.mul_le_mul_left index (Chunk.sizeOfPositive j.positive).2.1
  omega

theorem copiedMem {j : Plan} {rows : List ResourceRecord} {r : String × FeatureValue} :
    r ∈ j.copied rows ↔ r ∈ rows.map Copy.entry := by
  have positive := (Chunk.sizeOfPositive j.positive).2.1
  have same := Chunk.slicesAll positive rows
  rw [copied, written, List.mem_flatMap]
  conv => rhs; rw [← same, List.map_flatMap, List.mem_flatMap]
  constructor
  · rintro ⟨index, mem, inside⟩
    exact ⟨index, ((j.arranged _).mem_iff).mp mem, inside⟩
  · rintro ⟨index, mem, inside⟩
    exact ⟨index, ((j.arranged _).mem_iff).mpr mem, inside⟩

end Plan

def copyInto (j : Plan) (online : OnlineStore (StateM Host)) (mat : Materialization (StateM Host)) :
    Task (StateM Host) Unit := do
  ensureTable online j.config.resource j.config.valueType j.config.isUpdate
  let numRows ← mat.numRows
  let count := (Chunk.count numRows j.config.chunkSize).toNatClampNeg
  let results ← ExceptT.lift
    (copyEach mat online j.config.resource j.config.chunkSize (j.arrange (List.range count)))
  Task.ofExcept (report count results)

variable {j : Plan}

theorem bodyInto (j : Plan) (p : Nat) (online : OnlineStore (StateM Host)) :
    body j.arrange (Host.offline p) online j.config =
      (if j.config.isUpdate then (Host.offline p).updateMaterialization j.config.resource
        else (Host.offline p).createMaterialization j.config.resource) >>= copyInto j online := by
  simp only [body]
  split <;> rfl

theorem copyAllOn (id : MaterializationId) (inside : q < h.locals.length) (small : rows.length < 2 ^ 63)
    (plain : ∀ place s, ready j.config (h.localAt q) = .ok (place, s) →
      ∃ entries, s.tableNamed? j.key = some (place, .values entries)) :
    (copyInto j (Host.online q) (Host.snapshot p id rows)).on h =
      match ready j.config (h.localAt q) with
      | .error e => (.error (.error e), h)
      | .ok (place, s) => (.ok (), h.putLocal q (s.writeAll place (j.copied rows))) := by
  simp only [copyInto, Task.onBind, ensureOn]
  rcases prepared : ready j.config (h.localAt q) with e | ⟨place, s⟩
  · rfl
  · obtain ⟨entries, named⟩ := plain place s prepared
    have after := Host.localAtPut inside s
    have copies := copyEachOn (h := h.putLocal q s) (p := p) id small j.positive
      (by simpa [Host.putLocal] using inside) (Plan.orderWords (j := j) small) (by rw [after]; exact named)
    rw [after, Host.putLocalTwice] at copies
    simp only [Host.snapshotRowsOn, Chunk.countOf j.positive small, Task.onLifted, Task.onExcept]
    simp only [Plan.order] at copies
    simp only [copies, reportOk]
    rfl

theorem snapshotOn (c : MaterializeConfig) (p : Nat) (h : Host) :
    (if c.isUpdate then (Host.offline p).updateMaterialization c.resource
      else (Host.offline p).createMaterialization c.resource).on h =
      match build c (h.memoryAt p) with
      | .error e => (.error (.error e), h)
      | .ok rows => (.ok (Host.snapshot p (.ofResource c.resource) rows),
          h.putMemory p ((h.memoryAt p).putMaterialization (.ofResource c.resource) rows)) := by
  have lifted : (if c.isUpdate then (Host.offline p).updateMaterialization c.resource
      else (Host.offline p).createMaterialization c.resource) =
      Materialization.lift (Host.onMemory p) <$> Task.lift (Host.onMemory p)
        (if c.isUpdate then Memory.updateMaterialization c.resource
          else Memory.createMaterialization c.resource) := by
    cases c.isUpdate <;> rfl
  rw [lifted, Task.onMap, Host.onMemoryAt, buildOn]
  rcases build c (h.memoryAt p) with e | rows
  · simp [Memory.failed, Except.map]
  · rfl

theorem bodyOn (inside : q < h.locals.length)
    (small : ∀ rows, build j.config (h.memoryAt p) = .ok rows → rows.length < 2 ^ 63)
    (plain : ∀ place s, ready j.config (h.localAt q) = .ok (place, s) →
      ∃ entries, s.tableNamed? j.key = some (place, .values entries)) :
    (j.runner p q).body.on h =
      match build j.config (h.memoryAt p) with
      | .error e => (.error (.error e), h)
      | .ok rows =>
        match ready j.config (h.localAt q) with
        | .error e => (.error (.error e), h.putMemory p
            ((h.memoryAt p).putMaterialization (.ofResource j.config.resource) rows))
        | .ok (place, s) => (.ok (), (h.putMemory p
            ((h.memoryAt p).putMaterialization (.ofResource j.config.resource) rows)).putLocal q
              (s.writeAll place (j.copied rows))) := by
  rw [Plan.runner, bodyInto, Task.onBind, snapshotOn]
  rcases found : build j.config (h.memoryAt p) with e | rows
  · rfl
  · exact copyAllOn _ inside (small rows found) plain

end Materialize
end FeatureStore
