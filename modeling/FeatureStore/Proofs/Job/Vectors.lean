import FeatureStore.Proofs.Job.Materialize
import FeatureStore.Proofs.Online.Embedding
import FeatureStore.Proofs.Record.Latest
import Mathlib.Data.List.Basic
import Mathlib.Data.List.Rotate

/-!
A job that materializes a feature into a table of vectors. All chunks are tried whatever becomes of the
others, and a chunk stops at its first value that is no vector; what it has written until then stays.
-/
namespace FeatureStore
open EmbeddingStore (fits vector fault? kept)

namespace Materialize

def batch (size : Nat) (rows : List ResourceRecord) (index : Nat) : List (String × FeatureValue) :=
  (Chunk.slice size index rows).map Copy.entry

def chunkEnd (dims size : Nat) (rows : List ResourceRecord) (index : Nat) : Except Error Unit :=
  match fault? dims (batch size rows index) with
  | none => .ok ()
  | some e => .error (.jobFailed (Copy.jobName (.ofNat index)) e.message)

def writtenVectors (dims size : Nat) (order : List Nat) (rows : List ResourceRecord) :
    List (String × List Binary64) :=
  order.flatMap fun index => kept dims (batch size rows index)

variable {rows : List ResourceRecord} {size : Int64} {p q place : Nat} {resource : ResourceId}
  {h : Host}

theorem vectorChunkOn (dims : Nat) (id : MaterializationId) (small : rows.length < 2 ^ 63) (positive : 0 < size)
    {index : Nat} (word : index < 2 ^ 63)
    (named : (h.localAt q).tableNamed? (onlineTableKey "" resource.name resource.variant) =
      some (place, .vectors)) :
    (Copy.runner (pure (Host.snapshot p id rows)) (Host.localStore (some dims) q) resource
        ⟨size, .ofNat index⟩).wait.run h =
      (chunkEnd dims size.toNatClampNeg rows index, h.putLocal q ((h.localAt q).addVectors
        (kept dims (batch size.toNatClampNeg rows index)))) := by
  have got : ((Host.localStore (some dims) q).getTable resource.name resource.variant).on h =
      (.ok (OnlineTable.lift (Host.onLocal q) (LocalStore.vectorTable dims)), h) := by
    rw [Host.getTableOn, named]
    rfl
  have put (records : List (String × FeatureValue)) :
      ((OnlineTable.lift (Host.onLocal q) (LocalStore.vectorTable dims)).setBatch records).on h =
        (EmbeddingStore.ending (fault? dims records),
          h.putLocal q ((h.localAt q).addVectors (kept dims records))) := by
    simp only [OnlineTable.lift, Host.onLocalAt, LocalStore.vectorBatchOn]
  have nothing : (h.localAt q).addVectors (kept dims []) = h.localAt q := rfl
  rw [Runner.waitOn, Copy.runner, Copy.sliceOn id small positive word got, put]
  · unfold chunkEnd batch
    cases fault? dims ((Chunk.slice size.toNatClampNeg index rows).map Copy.entry) <;> rfl
  · rw [put, nothing, Host.putLocalSame]
    rfl

theorem vectorsEachOn (dims : Nat) (id : MaterializationId) (small : rows.length < 2 ^ 63) (positive : 0 < size)
    (inside : q < h.locals.length) {order : List Nat} (words : ∀ index ∈ order, index < 2 ^ 63)
    (named : (h.localAt q).tableNamed? (onlineTableKey "" resource.name resource.variant) =
      some (place, .vectors)) :
    (copyEach (Host.snapshot p id rows) (Host.localStore (some dims) q) resource size order).run h =
      (order.map fun index => (index, chunkEnd dims size.toNatClampNeg rows index),
        h.putLocal q ((h.localAt q).addVectors
          (writtenVectors dims size.toNatClampNeg order rows))) := by
  induction order generalizing h with
  | nil =>
    have nothing : (h.localAt q).addVectors (writtenVectors dims size.toNatClampNeg [] rows) =
        h.localAt q := rfl
    rw [nothing, Host.putLocalSame]
    rfl
  | cons index rest ih =>
    have first := vectorChunkOn (p := p) dims id small positive (words index (by simp)) named
    have after := Host.localAtPut inside ((h.localAt q).addVectors
      (kept dims (batch size.toNatClampNeg rows index)))
    have next := ih (h := h.putLocal q ((h.localAt q).addVectors
        (kept dims (batch size.toNatClampNeg rows index))))
      (by simpa [Host.putLocal] using inside) (fun i mem => words i (by simp [mem]))
      (by rw [after, LocalStore.addVectorsNamed]; exact named)
    rw [copyEachCons, first]
    simp only [next, after, Host.putLocalTwice, LocalStore.addVectorsTwice, writtenVectors, List.map_cons,
      List.flatMap_cons]

def chunkFault? (dims size : Nat) (rows : List ResourceRecord) (index : Nat) : Option String :=
  (fault? dims (batch size rows index)).map fun e =>
    (Error.jobFailed (Copy.jobName (.ofNat index)) e.message).message

theorem chunkLookup {order : List Nat} {index : Nat} (end' : Nat → Except Error Unit)
    (mem : index ∈ order) : (order.map fun i => (i, end' i)).lookup index = some (end' index) := by
  induction order with
  | nil => simp at mem
  | cons first rest ih =>
    rw [List.map_cons, List.lookup_cons]
    by_cases same : index = first
    · simp [same]
    · have other : (index == first) = false := by simpa using same
      rw [other]
      exact ih ((List.mem_cons.mp mem).resolve_left same)

theorem failuresOf {count : Nat} {order : List Nat} (dims size : Nat)
    (arranged : order.Perm (List.range count)) :
    failures count (order.map fun index => (index, chunkEnd dims size rows index)) =
      (List.range count).filterMap (chunkFault? dims size rows) := by
  refine List.filterMap_congr fun index mem => ?_
  rw [chunkLookup _ (arranged.mem_iff.mpr mem), chunkEnd, chunkFault?]
  cases fault? dims (batch size rows index) <;> rfl

def bad (dims size : Nat) (rows : List ResourceRecord) (index : Nat) : Bool :=
  (Chunk.slice size index rows).any fun r => !fits dims r.value

theorem faultReported {dims size index : Nat} :
    (chunkFault? dims size rows index).isSome = bad dims size rows index := by
  have none : chunkFault? dims size rows index = none ↔ bad dims size rows index = false := by
    simp [chunkFault?, EmbeddingStore.faultNone, bad, batch, Copy.entry]
  cases found : chunkFault? dims size rows index with
  | none => rw [none.mp found]; rfl
  | some e =>
    cases sound : bad dims size rows index with
    | false =>
      rw [none.mpr sound] at found
      cases found
    | true => rfl

theorem faultsCount (dims size count : Nat) :
    ((List.range count).filterMap (chunkFault? dims size rows)).length =
      ((List.range count).filter (bad dims size rows)).length := by
  rw [List.length_filterMap_eq_countP, List.countP_eq_length_filter]
  simp only [faultReported]

theorem reportOf {count : Nat} {order : List Nat} (dims size : Nat)
    (arranged : order.Perm (List.range count)) :
    let faults := (List.range count).filterMap (chunkFault? dims size rows)
    report count (order.map fun index => (index, chunkEnd dims size rows index)) =
      if faults = [] then .ok ()
      else .error (.jobFailed JobKind.copyToOnline.name
        (toString ((List.range count).filter (bad dims size rows)).length ++ " of " ++ toString count ++
          " chunks failed: " ++ "; ".intercalate faults)) := by
  intro faults
  rw [report, failuresOf dims size arranged, ← faultsCount]
  cases found : (List.range count).filterMap (chunkFault? dims size rows) with
  | nil => simp [faults, found]
  | cons fault more => simp [faults, found]

def vectorKey (c : MaterializeConfig) : String := onlineTableKey "" c.resource.name c.resource.variant

def Vacant (c : MaterializeConfig) (s : LocalStore) : Prop :=
  s.names.contains (vectorKey c) = false ∨
    c.isUpdate = true ∧ ∃ place, s.tableNamed? (vectorKey c) = some (place, .vectors)

theorem vectorsReady (dims : Nat) {c : MaterializeConfig} (ofVectors : c.valueType = .floatVector)
    {s : LocalStore} (vacant : Vacant c s) :
    ∃ place after, readyIn (some dims) c s = .ok (place, after) ∧
      after.tableNamed? (vectorKey c) = some (place, .vectors) ∧ after.vectors = s.vectors := by
  have fresh : LocalStore.newTable (some dims) c.valueType = .vectors := by
    simp [LocalStore.newTable, ofVectors]
  simp only [Vacant, vectorKey] at vacant ⊢
  rcases vacant with free | ⟨update, place, named⟩
  · have absent := LocalStore.tableNamedNone (Bindings.notContainsIff.mp free)
    have made : readyIn (some dims) c s = .ok (s.tables.length,
        { s with
          tables := s.tables ++ [.vectors]
          names := s.names.insert (onlineTableKey "" c.resource.name c.resource.variant)
            s.tables.length }) := by
      simp only [readyIn, absent, free, fresh]
      cases c.isUpdate <;> rfl
    refine ⟨_, _, made, LocalStore.tableNamedIff.mpr ⟨?_, ?_⟩, rfl⟩
    · simp [Bindings.findInsert]
    · simp
  · exact ⟨place, s, by simp only [readyIn, update, named], named, rfl⟩

def Plan.vectorRunner (j : Plan) (dims p q : Nat) : Runner (StateM Host) :=
  ⟨JobKind.materialize.name, body j.arrange (Host.offline p) (Host.localStore (some dims) q) j.config⟩

variable {j : Plan}

theorem copyIntoOn (dims : Nat) (id : MaterializationId) (ofVectors : j.config.valueType = .floatVector)
    (inside : q < h.locals.length) (small : rows.length < 2 ^ 63)
    (vacant : Vacant j.config (h.localAt q)) :
    ∃ s, (copyInto j (Host.localStore (some dims) q) (Host.snapshot p id rows)).on h =
        ((report (Chunk.cover rows.length j.config.chunkSize.toNatClampNeg)
          ((j.order rows.length).map fun index =>
            (index, chunkEnd dims j.config.chunkSize.toNatClampNeg rows index))).mapError .error,
          h.putLocal q s) ∧
      s.vectors = (h.localAt q).vectors.insertAll
        (writtenVectors dims j.config.chunkSize.toNatClampNeg (j.order rows.length) rows) := by
  obtain ⟨place, s, ready, named, same⟩ := vectorsReady dims ofVectors vacant
  have ensured := ensureInOn (some dims) j.config q h
  rw [ready] at ensured
  have after := Host.localAtPut inside s
  have copies := vectorsEachOn (h := h.putLocal q s) (p := p) dims id small j.positive
    (by simpa [Host.putLocal] using inside) (Plan.orderWords (j := j) small) (by rw [after]; exact named)
  rw [after, Host.putLocalTwice, Plan.order] at copies
  refine ⟨s.addVectors _, ?_, congrArg (Bindings.insertAll · _) same⟩
  simp only [copyInto, Task.onBind, ensured, Host.snapshotRowsOn, Chunk.countOf j.positive small, Task.onLifted,
    Task.onExcept, copies, Plan.order]

theorem vectorBodyOn (dims : Nat) (ofVectors : j.config.valueType = .floatVector)
    (inside : q < h.locals.length) (built : build j.config (h.memoryAt p) = .ok rows)
    (small : rows.length < 2 ^ 63) (vacant : Vacant j.config (h.localAt q)) :
    ∃ m s, (j.vectorRunner dims p q).body.on h =
        ((report (Chunk.cover rows.length j.config.chunkSize.toNatClampNeg)
          ((j.order rows.length).map fun index =>
            (index, chunkEnd dims j.config.chunkSize.toNatClampNeg rows index))).mapError .error,
          (h.putMemory p m).putLocal q s) ∧
      s.vectors = (h.localAt q).vectors.insertAll
        (writtenVectors dims j.config.chunkSize.toNatClampNeg (j.order rows.length) rows) := by
  have started := snapshotOn j.config p h
  rw [built] at started
  obtain ⟨s, copied, vectors⟩ := copyIntoOn (p := p)
    (h := h.putMemory p ((h.memoryAt p).putMaterialization (.ofResource j.config.resource) rows)) dims
    (.ofResource j.config.resource) ofVectors inside small vacant
  refine ⟨(h.memoryAt p).putMaterialization (.ofResource j.config.resource) rows, s, ?_, vectors⟩
  rw [Plan.vectorRunner, bodyInto, Task.onBind, started]
  exact copied

def landed (dims size : Nat) (rows : List ResourceRecord) (index : Nat) : List ResourceRecord :=
  (Chunk.slice size index rows).takeWhile fun r => fits dims r.value

theorem keptLanded (dims size index : Nat) :
    kept dims (batch size rows index) =
      (landed dims size rows index).map fun r => (r.entity, vector r.value) := by
  simp only [kept, batch, landed, List.takeWhile_map, List.map_map]
  rfl

theorem builtDistinct {c : MaterializeConfig} {m : Memory} (built : build c m = .ok rows)
    {a b : ResourceRecord} (inA : a ∈ rows) (inB : b ∈ rows) (same : a.entity = b.entity) : a = b := by
  simp only [build] at built
  split at built <;> try contradiction
  simp only [Memory.snapshot, bind, Except.bind, Except.map] at built
  split at built <;> try contradiction
  split at built <;> try contradiction
  cases built
  exact ResourceRecord.entityUnique (ResourceRecord.keptLatest _).ascending inA inB same

theorem soundIff {size : Nat} (positive : 0 < size) (dims : Nat) :
    (List.range (Chunk.cover rows.length size)).filterMap (chunkFault? dims size rows) = [] ↔
      ∀ r ∈ rows, fits dims r.value = true := by
  have sound (index : Nat) : chunkFault? dims size rows index = none ↔
      ∀ r ∈ Chunk.slice size index rows, fits dims r.value = true := by
    rw [← Option.not_isSome_iff_eq_none, faultReported]
    simp [bad]
  rw [List.filterMap_eq_nil_iff]
  conv => rhs; rw [← Chunk.slicesAll positive rows]
  simp only [sound, List.mem_flatMap]
  constructor
  · rintro each r ⟨index, inRange, inSlice⟩
    exact each index inRange r inSlice
  · intro all index inRange r inSlice
    exact all r ⟨index, inRange, inSlice⟩

theorem landedMem {dims index : Nat} {r : ResourceRecord}
    (mem : r ∈ landed dims j.config.chunkSize.toNatClampNeg rows index) :
    r ∈ rows ∧ index ∈ j.order rows.length := by
  have inSlice := (List.takeWhile_prefix _).subset mem
  refine ⟨List.mem_of_mem_drop (List.mem_of_mem_take inSlice), ?_⟩
  by_contra past
  rw [Plan.orderMem, Nat.not_lt] at past
  rw [Copy.slicePast past] at inSlice
  cases inSlice

theorem writtenMem {dims : Nat} {x : String × List Binary64} :
    x ∈ writtenVectors dims j.config.chunkSize.toNatClampNeg (j.order rows.length) rows ↔
      ∃ index, ∃ r ∈ landed dims j.config.chunkSize.toNatClampNeg rows index,
        (r.entity, vector r.value) = x := by
  simp only [writtenVectors, keptLanded, List.mem_flatMap, List.mem_map]
  constructor
  · rintro ⟨index, -, r, mem, same⟩
    exact ⟨index, r, mem, same⟩
  · rintro ⟨index, r, mem, same⟩
    exact ⟨index, (landedMem mem).2, r, mem, same⟩

theorem writtenFound {dims index : Nat} {m : Memory} {r : ResourceRecord}
    {b : Bindings String (List Binary64)} (built : build j.config m = .ok rows)
    (mem : r ∈ landed dims j.config.chunkSize.toNatClampNeg rows index) :
    (b.insertAll (writtenVectors dims j.config.chunkSize.toNatClampNeg (j.order rows.length) rows)).find?
      r.entity = some (vector r.value) := by
  refine Bindings.insertAllAgreed (fun x inside same => ?_) (.inl ⟨_, writtenMem.mpr ⟨index, r, mem, rfl⟩, rfl⟩)
  obtain ⟨other, s, memOther, rfl⟩ := writtenMem.mp inside
  rw [builtDistinct built (landedMem memOther).1 (landedMem mem).1 same]

theorem writtenAbsent {dims : Nat} {e : String} {b : Bindings String (List Binary64)}
    (absent : ∀ index, ∀ r ∈ landed dims j.config.chunkSize.toNatClampNeg rows index, r.entity ≠ e) :
    (b.insertAll (writtenVectors dims j.config.chunkSize.toNatClampNeg (j.order rows.length) rows)).find? e =
      b.find? e := by
  refine Bindings.insertAllAbsent fun x inside => ?_
  obtain ⟨index, r, mem, rfl⟩ := writtenMem.mp inside
  exact absent index r mem

/-- A job into a table of vectors succeeds exactly when every value of its snapshot fits, and reports
the chunks with values that do not otherwise, in their order and by their first such value. Either way
the vector of an entity is written exactly when all values fit from the start of its chunk to its own. A
list in memory is shorter than `2 ^ 63`. -/
theorem vectorsLand (j : Plan) (dims p q : Nat) (ofVectors : j.config.valueType = .floatVector)
    (inside : q < h.locals.length) (built : build j.config (h.memoryAt p) = .ok rows)
    (small : rows.length < 2 ^ 63) (vacant : Vacant j.config (h.localAt q)) :
    let size := j.config.chunkSize.toNatClampNeg
    let count := (Chunk.count (.ofNat rows.length) j.config.chunkSize).toNatClampNeg
    let spoilt := (List.range count).filter (bad dims size rows)
    let faults := (List.range count).filterMap (chunkFault? dims size rows)
    let ended := (j.vectorRunner dims p q).wait.run h
    let after := (ended.2.localAt q).vectors
    (ended.1 = .ok () ↔ ∀ r ∈ rows, fits dims r.value = true) ∧
      ((∃ r ∈ rows, ¬ fits dims r.value = true) →
        ended.1 = .error (.jobFailed JobKind.materialize.name (Error.jobFailed JobKind.copyToOnline.name
          (toString spoilt.length ++ " of " ++ toString count ++ " chunks failed: " ++
            "; ".intercalate faults)).message)) ∧
      (∀ index, ∀ r ∈ landed dims size rows index, after.find? r.entity = some (vector r.value)) ∧
      ∀ e, (∀ index, ∀ r ∈ landed dims size rows index, r.entity ≠ e) →
        after.find? e = (h.localAt q).vectors.find? e := by
  intro size count spoilt faults ended after
  have sizePos := (Chunk.sizeOfPositive j.positive).2.1
  have covers : count = Chunk.cover rows.length size := Chunk.countOf j.positive small
  obtain ⟨m, s, ran, vectors⟩ := vectorBodyOn dims ofVectors inside built small vacant
  have sound : faults = [] ↔ ∀ r ∈ rows, fits dims r.value = true := by
    rw [← soundIff sizePos, ← covers]
  have waited := Runner.waitOn (j.vectorRunner dims p q) h
  rw [ran, ← covers] at waited
  have left : ended.2.localAt q = s := by
    have moved : ended.2 = (h.putMemory p m).putLocal q s := congrArg Prod.snd waited
    rw [moved, Host.localAtPut (show q < (h.putMemory p m).locals.length from inside)]
  have answer : ended.1 =
      if faults = [] then .ok ()
      else .error (.jobFailed JobKind.materialize.name (Error.jobFailed JobKind.copyToOnline.name
        (toString spoilt.length ++ " of " ++ toString count ++ " chunks failed: " ++
          "; ".intercalate faults)).message) := by
    have arranged : (j.order rows.length).Perm (List.range count) := by
      rw [covers]
      exact j.arranged _
    -- The report lists chunks by their index, whatever the order in which they have run.
    have first := congrArg Prod.fst waited
    rw [reportOf dims size arranged] at first
    by_cases none : faults = []
    · rw [if_pos none] at first ⊢
      exact first
    · rw [if_neg none] at first ⊢
      exact first
  refine ⟨?_, ?_, ?_, ?_⟩
  · rw [answer, ← sound]
    split <;> simp_all
  · rintro ⟨r, mem, unfit⟩
    rw [answer, if_neg fun none => unfit (sound.mp none r mem)]
  · intro index r mem
    show (ended.2.localAt q).vectors.find? r.entity = _
    rw [left, vectors]
    exact writtenFound built mem
  · intro e absent
    show (ended.2.localAt q).vectors.find? e = _
    rw [left, vectors]
    exact writtenAbsent absent

def faces : ResourceId := ⟨"faces", "v1", .feature⟩

/- In chunks of two, the first ends with a value that is no list, the second begins with a list that is
too short, and the third is sound. -/
def facesRecords : List ResourceRecord :=
  [.ofValue "ann" (.ints [1, 2]), .ofValue "bob" (.string "?"), .ofValue "cyd" (.ints [1]),
    .ofValue "dan" (.ints [3, 4]), .ofValue "eve" (.ints [5, 6])]

def facesHost : Host :=
  { Host.start none none with
    memories := [{ Memory.empty with resources := Bindings.empty.insert faces (.owned facesRecords) }]
    locals := [.empty] }

def facesJob : Plan where
  config := ⟨.memoryOffline, .empty, .localOnline, .empty, faces, .floatVector, false, 2⟩
  positive := by decide
  arrange order := order.rotate 1
  arranged count := List.rotate_perm _ 1

theorem vectorsLandFaces :
    let ended := (facesJob.vectorRunner 2 0 0).wait.run facesHost
    let after := (ended.2.localAt 0).vectors
    (∃ faults : List String, faults.length = 2 ∧
      ended.1 = .error (.jobFailed "MATERIALIZE" (Error.jobFailed "COPY_TO_ONLINE"
        ("2 of 3 chunks failed: " ++ "; ".intercalate faults)).message)) ∧
      after.find? "ann" = some (vector (.ints [1, 2])) ∧ after.find? "bob" = none ∧
      after.find? "cyd" = none ∧ after.find? "dan" = none ∧
      after.find? "eve" = some (vector (.ints [5, 6])) := by
  have built : build facesJob.config (facesHost.memoryAt 0) = .ok facesRecords := rfl
  have size : facesJob.config.chunkSize.toNatClampNeg = 2 := rfl
  have first : landed 2 2 facesRecords 0 = [.ofValue "ann" (.ints [1, 2])] := rfl
  have second : landed 2 2 facesRecords 1 = [] := rfl
  have third : landed 2 2 facesRecords 2 = [.ofValue "eve" (.ints [5, 6])] := rfl
  have behind (index : Nat) : landed 2 2 facesRecords (index + 3) = [] := by
    rw [landed, Copy.slicePast (by simp only [facesRecords, List.length_cons, List.length_nil]; omega)]
    rfl
  obtain ⟨-, failed, written, others⟩ := vectorsLand facesJob 2 0 0 rfl (by decide) built (by decide)
    (.inl rfl)
  rw [size] at written others
  have unwritten (e : String) (apart : "ann" ≠ e ∧ "eve" ≠ e) (index : Nat) :
      ∀ r ∈ landed 2 2 facesRecords index, r.entity ≠ e := by
    match index with
    | 0 => simpa [first, ResourceRecord.ofValue] using apart.1
    | 1 => simp [second]
    | 2 => simpa [third, ResourceRecord.ofValue] using apart.2
    | index + 3 => simp [behind]
  have spoilt : ¬ fits 2 (FeatureValue.string "?") = true := by decide
  refine ⟨⟨_, ?_, failed ⟨.ofValue "bob" (.string "?"), by simp [facesRecords], spoilt⟩⟩, ?_⟩
  · rfl
  · exact ⟨written 0 (.ofValue "ann" (.ints [1, 2])) (by simp [first]),
      others "bob" (unwritten "bob" (by decide)), others "cyd" (unwritten "cyd" (by decide)),
      others "dan" (unwritten "dan" (by decide)),
      written 2 (.ofValue "eve" (.ints [5, 6])) (by simp [third])⟩

end Materialize
end FeatureStore
