import FeatureStore.Proofs.Offline.Session

/-!
What a call to the store in memory leaves alone. A call that fails changes nothing. One that succeeds
changes at most the entry that it is about, and a write adds one record or one row to its own table.
-/
namespace FeatureStore

namespace Memory

inductive Entry where
  | resource (id : ResourceId)
  | primary (id : ResourceId)
  | table (place : Nat)
  | snapshot (mat : MaterializationId)
  | trainingSet (id : ResourceId)
  deriving DecidableEq

/- Everything but perhaps one entry has stayed. A new primary resource may come with a new table
behind those that there were. -/
structure OnlyAt (entry : Option Entry) (m after : Memory) : Prop where
  resources {id : ResourceId} : entry ≠ some (.resource id) →
    after.resources.find? id = m.resources.find? id
  primaries {id : ResourceId} : entry ≠ some (.primary id) →
    after.primaries.find? id = m.primaries.find? id
  tables {place : Nat} : place < m.tables.length → entry ≠ some (.table place) →
    after.tables[place]? = m.tables[place]?
  count : (∀ id, entry ≠ some (.primary id)) → after.tables.length = m.tables.length
  snapshots {mat : MaterializationId} : entry ≠ some (.snapshot mat) →
    after.materializations.find? mat = m.materializations.find? mat
  trainingSets {id : ResourceId} : entry ≠ some (.trainingSet id) →
    after.trainingSets.find? id = m.trainingSets.find? id

namespace OnlyAt
variable {m : Memory}

theorem refl (entry : Option Entry) (m : Memory) : OnlyAt entry m m :=
  ⟨fun _ => rfl, fun _ => rfl, fun _ _ => rfl, fun _ => rfl, fun _ => rfl, fun _ => rfl⟩

theorem findOther {κ ν : Type} [DecidableEq κ] (b : Bindings κ ν) {key other : κ} (value : ν)
    {wrap : κ → Entry} (apart : some (wrap key) ≠ some (wrap other)) :
    (b.insert key value).find? other = b.find? other := by
  rw [Bindings.findInsert, if_neg fun same => apart (congrArg (some <| wrap ·) same)]

theorem putResource (id : ResourceId) (source : RecordSource) :
    OnlyAt (some (.resource id)) m (m.putResource id source) :=
  { refl _ m with resources := findOther m.resources source }

theorem putPrimary (id : ResourceId) (place : Nat) :
    OnlyAt (some (.primary id)) m (m.putPrimary id place) :=
  { refl _ m with primaries := findOther m.primaries place }

theorem addTable (id : ResourceId) (t : MemoryTable) :
    OnlyAt (some (.primary id)) m (m.addTable id t) :=
  { refl _ m with
    primaries := findOther m.primaries m.tables.length
    tables := fun old _ => List.getElem?_append_left old
    count := fun none => absurd rfl (none id) }

theorem addRow (place : Nat) (row : Row) : OnlyAt (some (.table place)) m (m.addRow place row) :=
  { refl _ m with
    tables := fun {other} _ apart => by
      have elsewhere : place ≠ other := fun same => apart (congrArg (some <| Entry.table ·) same)
      simp [Memory.addRow, elsewhere]
    count := fun _ => List.length_modify .. }

theorem putMaterialization (mat : MaterializationId) (rows : List ResourceRecord) :
    OnlyAt (some (.snapshot mat)) m (m.putMaterialization mat rows) :=
  { refl _ m with snapshots := findOther m.materializations rows }

theorem dropMaterialization (mat : MaterializationId) :
    OnlyAt (some (.snapshot mat)) m (m.dropMaterialization mat) :=
  { refl _ m with
    snapshots := fun {other} apart => by
      have elsewhere : mat ≠ other := fun same => apart (congrArg (some <| Entry.snapshot ·) same)
      rw [Memory.dropMaterialization, Bindings.findErase, if_neg elsewhere] }

theorem putTrainingSet (id : ResourceId) (rows : List TrainingSetRow) :
    OnlyAt (some (.trainingSet id)) m (m.putTrainingSet id rows) :=
  { refl _ m with trainingSets := findOther m.trainingSets rows }

end OnlyAt
end Memory

open Memory History

def OfflineCall.entry? (h : History) : OfflineCall → Option Memory.Entry
  | createResource id _ | registerResource id _ => some (.resource id)
  | write handle _ =>
    match giver h handle with
    | some (.resource id) => some (.resource id)
    | _ => none
  | createPrimary id _ | registerPrimary id _ => some (.primary id)
  | writeRow handle _ =>
    match giver h handle with
    | some (.primary id) => (place? id h).map .table
    | _ => none
  | createMaterialization id | updateMaterialization id => some (.snapshot (.ofResource id))
  | deleteMaterialization mat => some (.snapshot mat)
  | createTrainingSet d | updateTrainingSet d => some (.trainingSet d.id)
  | _ => none

namespace OfflineSession

def Appends (h : History) (m after : Memory) : OfflineCall → Prop
  | .write handle r => ∃ id records, giver h handle = some (.resource id) ∧
      m.resources.find? id = some (.owned records) ∧
      after.resources.find? id = some (.owned (records ++ [r]))
  | .writeRow handle row => ∃ id place t, giver h handle = some (.primary id) ∧
      m.primaryAt? id = some (place, t) ∧
      after.primaryAt? id = some (place, { t with rows := t.rows ++ [row] })
  | _ => True

variable {x : OfflineSession}

theorem Change.onlyAt (tracked : x.Tracked) {call : OfflineCall}
    {handle : Option (OfflineHandle (StateM Memory))} {after : Memory}
    (change : x.Change call handle after) : OnlyAt (call.entry? x.history) x.memory after := by
  cases change with
  | createResource => exact .putResource _ _
  | registerResource => exact .putResource _ _
  | write given owned =>
    simp only [OfflineCall.entry?, given, addRecordOwned owned]
    exact .putResource _ _
  | createPrimary => exact .addTable _ _
  | registerPrimary => exact .putPrimary _ _
  | writeRow given shown =>
    simp only [OfflineCall.entry?, given, ← tracked.tables.primaries, shown]
    exact .addRow _ _
  | createMaterialization => exact .putMaterialization _ _
  | updateMaterialization => exact .putMaterialization _ _
  | deleteMaterialization => exact .dropMaterialization _
  | createTrainingSet => exact .putTrainingSet _ _
  | updateTrainingSet => exact .putTrainingSet _ _
  | getResource | getPrimary | getMaterialization | looks => exact .refl _ _

theorem Change.appends {call : OfflineCall} {handle : Option (OfflineHandle (StateM Memory))}
    {after : Memory} (change : x.Change call handle after) : Appends x.history x.memory after call := by
  cases change with
  | @write handle r id records given owned =>
    refine ⟨id, records, given, owned, ?_⟩
    rw [addRecordOwned owned, putResource, Bindings.findInsert, if_pos rfl]
  | @writeRow handle row id place t given shown there =>
    refine ⟨id, place, t, given, primaryAtIff.mpr ⟨shown, there⟩, primaryAtIff.mpr ⟨shown, ?_⟩⟩
    simp [addRow, there]
  | looks => cases call <;> trivial
  | _ => trivial

theorem callsKeepTheRest (calls : List OfflineCall) (call : OfflineCall) :
    let x := run calls
    let (outcome, after) := (call.perform Memory.store x.held).run x.memory
    match outcome.1 with
    | false => after = x.memory
    | true => OnlyAt (call.entry? x.history) x.memory after ∧ Appends x.history x.memory after call := by
  intro x
  have tracked : x.Tracked := trackedRun calls
  rcases tracked.accounted call with performed | ⟨handle, after, performed, change⟩
  · rw [performed]
  · rw [performed]
    exact ⟨change.onlyAt tracked, change.appends⟩

end OfflineSession
end FeatureStore
