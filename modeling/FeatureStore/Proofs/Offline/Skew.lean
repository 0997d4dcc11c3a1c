import FeatureStore.Proofs.Offline.SourceRecords
import FeatureStore.Proofs.Record.AsOf

/-!
Serving and training agree. A snapshot keeps the latest record of each entity, and a training set looks
values up as of the time of its label; where no record of the entity is later than the label, both take
the same record, also among records of one time.
-/
namespace FeatureStore

section Lists
variable {α β ε : Type} {f : α → Except ε β} {items : List α}

theorem mapMReads (readable : ∀ a ∈ items, ∃ b, f a = .ok b) : ∃ results, items.mapM f = .ok results := by
  induction items with
  | nil => exact ⟨[], rfl⟩
  | cons a rest ih =>
    obtain ⟨b, first⟩ := readable a List.mem_cons_self
    obtain ⟨more, others⟩ := ih fun x mem => readable x (List.mem_cons_of_mem a mem)
    exact ⟨b :: more, by rw [List.mapM_cons, first, others]; rfl⟩

theorem mapMPlace {results : List β} (done : items.mapM f = .ok results) {n : Nat} {a : α}
    (there : items[n]? = some a) : ∃ b, results[n]? = some b ∧ f a = .ok b := by
  induction items generalizing results n with
  | nil => simp at there
  | cons first rest ih =>
    rw [List.mapM_cons] at done
    obtain ⟨b, here, next⟩ := Task.boundOk done
    obtain ⟨more, others, last⟩ := Task.boundOk next
    cases last
    cases n with
    | zero =>
      obtain rfl : first = a := by simpa using there
      exact ⟨b, rfl, here⟩
    | succ n => exact ih others there

end Lists

namespace ResourceRecord

/- A value agrees with a snapshot on an entity: it is the one that the snapshot stores, and null exactly
when the snapshot has no record of the entity or stores null for it. -/
structure Agrees (latest : List ResourceRecord) (entity : String) (value : FeatureValue) : Prop where
  stored : ∀ r ∈ latest, r.entity = entity → value = r.value
  null : value = .null ↔
    (∀ r ∈ latest, r.entity ≠ entity) ∨ ∃ r ∈ latest, r.entity = entity ∧ r.value = .null

theorem valueAgrees {records : List ResourceRecord} {entity : String} {ts : Timestamp}
    (seen : ∀ r ∈ records, r.entity = entity → r.ts.le ts = true) :
    Agrees (latestPerEntity records) entity (valueAsOf records entity ts) := by
  have kept := keptLatest records
  rw [valueOfRecord]
  cases found : recordAsOf records entity ts with
  | none =>
    have absent : ∀ r ∈ latestPerEntity records, r.entity ≠ entity := by
      intro r mem same
      exact absurd ((asOfEnd seen).mpr ⟨same, mem⟩) (by simp [found])
    exact ⟨fun r mem same => absurd same (absent r mem), fun _ => .inl absent, fun _ => rfl⟩
  | some s =>
    obtain ⟨here, mem⟩ := (asOfEnd seen).mp found
    have only : ∀ r ∈ latestPerEntity records, r.entity = entity → s.value = r.value := by
      intro r memR same
      rw [entityUnique kept.ascending mem memR (here.trans same.symm)]
    refine ⟨only, fun null => .inr ⟨s, mem, here, null⟩, ?_⟩
    rintro (absent | ⟨r, memR, same, null⟩)
    · exact absurd here (absent s mem)
    · exact (only r memR same).trans null

end ResourceRecord

open ResourceRecord (latestPerEntity scannedAsOf Agrees)

namespace Memory

structure SnapshotNow (m : Memory) (f : ResourceId) (latest : List ResourceRecord) : Prop where
  updated : (updateMaterialization f).on m =
    (.ok (materialization (.ofResource f) latest), m.putMaterialization (.ofResource f) latest)
  created : m.materializations.contains (.ofResource f) = false →
    (createMaterialization f).on m =
      (.ok (materialization (.ofResource f) latest), m.putMaterialization (.ofResource f) latest)

structure TrainingNow (m : Memory) (d : TrainingSetDef) (rows : List TrainingSetRow) : Prop where
  updated : (updateTrainingSet d).on m = (.ok (), m.putTrainingSet d.id rows)
  created : m.trainingSets.contains d.id = false →
    (createTrainingSet d).on m = (.ok (), m.putTrainingSet d.id rows)
  read : (getTrainingSet d.id).on (m.putTrainingSet d.id rows) =
    (.ok (rows.map .ok), m.putTrainingSet d.id rows)

variable {m : Memory}

theorem snapshotNow {f : ResourceId} {written : List ResourceRecord} (feature : f.type = .feature)
    (readable : m.records f = .ok written) : SnapshotNow m f (latestPerEntity written) := by
  have made : m.snapshot f = .ok (latestPerEntity written) := by
    rw [snapshot, ResourceId.checkOneIff.mpr feature, readable]
    rfl
  refine ⟨by rw [updateMaterializationOn, made], fun new => ?_⟩
  rw [createMaterializationOn, new, made]
  rfl

theorem trainingNow {d : TrainingSetDef} {labels : List ResourceRecord}
    {features : List (List ResourceRecord)} (valid : d.check = .ok ())
    (labelled : m.records d.label = .ok labels) (collected : d.features.mapM m.records = .ok features) :
    TrainingNow m d (joinTrainingSet labels features) := by
  have made : m.trainingRows d = .ok (joinTrainingSet labels features) := by
    rw [trainingRows, valid, labelled, collected]
    rfl
  refine ⟨by rw [updateTrainingSetOn, made], fun new => ?_, ?_⟩
  · rw [createTrainingSetOn, new, made]
    rfl
  · rw [getTrainingSetOn, putTrainingSet, Bindings.findInsert, if_pos rfl]

/-- In any state of the store: a snapshot of a feature that can be read is built, and so is every training
set whose label and features can be read, with a row for each record of the label in order. In the row
of a label that no record of its entity is later than, the feature has the value that a search from the
end of its records by time finds, and it agrees with the snapshot, wherever the definition lists it. -/
theorem trainingAgreesWithServing (m : Memory) (f : ResourceId) (written : List ResourceRecord)
    (feature : f.type = .feature) (readable : m.records f = .ok written) :
    SnapshotNow m f (latestPerEntity written) ∧
      ∀ d labels, d.check = .ok () → m.records d.label = .ok labels →
        (∀ g ∈ d.features, ∃ records, m.records g = .ok records) →
        ∃ rows, TrainingNow m d rows ∧ rows.length = labels.length ∧
          ∀ (i j : Nat) l, labels[i]? = some l → d.features[j]? = some f →
            (∀ r ∈ written, r.entity = l.entity → r.ts.le l.ts = true) →
            ∃ row value, rows[i]? = some row ∧ row.features[j]? = some value ∧
              value = scannedAsOf written l.entity l.ts ∧
              Agrees (latestPerEntity written) l.entity value := by
  refine ⟨snapshotNow feature readable, fun d labels valid labelled known => ?_⟩
  obtain ⟨features, collected⟩ := mapMReads known
  refine ⟨joinTrainingSet labels features, trainingNow valid labelled collected, ?_, ?_⟩
  · rw [joinTrainingSet, List.length_map]
  intro i j l label listed seen
  obtain ⟨records, there, read⟩ := mapMPlace collected listed
  obtain rfl : written = records := Except.ok.inj (readable.symm.trans read)
  refine ⟨_, _, by rw [joinTrainingSet, List.getElem?_map, label]; rfl, ?_,
    ResourceRecord.valueScanned written l.entity l.ts, ResourceRecord.valueAgrees seen⟩
  rw [List.getElem?_map, there]
  rfl

def prices : ResourceId := ⟨"prices", "v1", .feature⟩

def sales : TrainingSetDef := ⟨⟨"sales", "v1", .trainingSet⟩, ⟨"sold", "v1", .label⟩, [prices]⟩

def saleCalls : List OfflineCall :=
  [.createResource prices ⟨[⟨"entity", .string⟩, ⟨"value", .int⟩]⟩,
    .createResource sales.label ⟨[⟨"entity", .string⟩, ⟨"value", .bool⟩]⟩,
    .write 0 (.ofValue "tea" (.int 3)), .write 0 (.ofValue "tea" (.int 4)),
    .write 1 (.ofValue "tea" (.bool true))]

theorem trainingAgreesWithServingSales :
    let m := (OfflineSession.run saleCalls).memory
    let latest := [ResourceRecord.ofValue "tea" (.int 4)]
    SnapshotNow m prices latest ∧
      ∃ rows row value, TrainingNow m sales rows ∧ rows[0]? = some row ∧ row.features[0]? = some value ∧
        Agrees latest "tea" value ∧ value = .int 4 := by
  intro m latest
  have kept : latestPerEntity [.ofValue "tea" (.int 3), .ofValue "tea" (.int 4)] = latest := rfl
  have readable : m.records prices = .ok [.ofValue "tea" (.int 3), .ofValue "tea" (.int 4)] := rfl
  obtain ⟨snapshot, training⟩ := trainingAgreesWithServing m prices _ rfl readable
  have listed : ∀ g ∈ sales.features, ∃ records, m.records g = .ok records := by
    simpa [sales] using ⟨_, readable⟩
  obtain ⟨rows, built, -, agree⟩ := training sales [.ofValue "tea" (.bool true)] rfl rfl listed
  obtain ⟨row, value, there, held, -, agrees⟩ := agree 0 0 _ rfl rfl (by decide)
  rw [kept] at snapshot agrees
  exact ⟨snapshot, rows, row, value, built, there, held, agrees, agrees.stored _ (.head _) rfl⟩

end Memory
end FeatureStore
