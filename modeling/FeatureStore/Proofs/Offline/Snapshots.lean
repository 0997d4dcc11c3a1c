import FeatureStore.Proofs.Offline.Session
import FeatureStore.Proofs.Text.Replace

/-!
Snapshots of different features. A snapshot is kept under the one text that joins the name and the
variant of its feature: the snapshots of two features are independent of each other if and only if
their texts differ.
-/
namespace FeatureStore

namespace Memory

structure SnapshotView where
  found : Except Failure (Materialization (StateM Memory))
  created : Except Failure (Materialization (StateM Memory))

def snapshotView (m : Memory) (id : ResourceId) : SnapshotView :=
  ⟨((getMaterialization (.ofResource id)).on m).1, ((createMaterialization id).on m).1⟩

/- Nothing has changed that the snapshot of a feature depends on, unless it is the snapshot `mat`. -/
structure SameBut (mat : MaterializationId) (m after : Memory) : Prop where
  resources : after.resources = m.resources
  tables : after.tables = m.tables
  snapshots {other : MaterializationId} : other ≠ mat →
    after.materializations.find? other = m.materializations.find? other

namespace SameBut
variable {mat : MaterializationId} {m after : Memory}

theorem refl (mat : MaterializationId) (m : Memory) : SameBut mat m m := ⟨rfl, rfl, fun _ => rfl⟩

theorem put (rows : List ResourceRecord) : SameBut mat m (m.putMaterialization mat rows) :=
  ⟨rfl, rfl, fun apart => by rw [putMaterialization, Bindings.findInsert, if_neg apart.symm]⟩

theorem drop : SameBut mat m (m.dropMaterialization mat) :=
  ⟨rfl, rfl, fun apart => by rw [dropMaterialization, Bindings.findErase, if_neg apart.symm]⟩

theorem snapshot (same : SameBut mat m after) (id : ResourceId) : after.snapshot id = m.snapshot id := by
  have records : after.records id = m.records id := by
    simp only [Memory.records, same.resources, same.tables]
  simp only [Memory.snapshot, records]

theorem view (same : SameBut mat m after) {id : ResourceId} (apart : .ofResource id ≠ mat) :
    after.snapshotView id = m.snapshotView id := by
  have kept := same.snapshots apart
  have found : ((getMaterialization (.ofResource id)).on after).1 =
      ((getMaterialization (.ofResource id)).on m).1 := by
    rw [getMaterializationOn, getMaterializationOn, kept]
    cases m.materializations.find? (.ofResource id) <;> rfl
  have created : ((createMaterialization id).on after).1 = ((createMaterialization id).on m).1 := by
    rw [createMaterializationOn, createMaterializationOn, Bindings.contains, kept, same.snapshot id]
    by_cases there : (m.materializations.find? (.ofResource id)).isSome = true
    · rw [if_pos there, Bindings.contains, if_pos there]
      rfl
    · rw [if_neg there, Bindings.contains, if_neg there]
      cases m.snapshot id <;> rfl
  rw [snapshotView, snapshotView, found, created]

end SameBut

theorem createSameBut (id : ResourceId) (m : Memory) :
    SameBut (.ofResource id) m ((createMaterialization id).on m).2 := by
  rw [createMaterializationOn]
  split
  · exact .refl _ m
  · split
    · exact .refl _ m
    · exact .put _

theorem updateSameBut (id : ResourceId) (m : Memory) :
    SameBut (.ofResource id) m ((updateMaterialization id).on m).2 := by
  rw [updateMaterializationOn]
  split
  · exact .refl _ m
  · exact .put _

theorem deleteSameBut (mat : MaterializationId) (m : Memory) :
    SameBut mat m ((deleteMaterialization mat).on m).2 := by
  rw [deleteMaterializationOn]
  split
  · exact .drop
  · exact .refl _ m

end Memory

namespace OfflineCall

def OnSnapshotOf (f : ResourceId) : OfflineCall → Prop
  | createMaterialization id | updateMaterialization id => id = f
  | deleteMaterialization mat => mat = .ofResource f
  | _ => False

end OfflineCall

namespace OfflineSession
open Memory

theorem stepSameBut {f : ResourceId} {call : OfflineCall} (on : call.OnSnapshotOf f) (x : OfflineSession) :
    SameBut (.ofResource f) x.memory (x.step call).memory := by
  cases call with
  | createMaterialization id =>
    obtain rfl : id = f := on
    exact createSameBut id x.memory
  | updateMaterialization id =>
    obtain rfl : id = f := on
    exact updateSameBut id x.memory
  | deleteMaterialization mat =>
    obtain rfl : mat = .ofResource f := on
    exact deleteSameBut _ x.memory
  | _ => exact on.elim

def Independent (f g : ResourceId) : Prop :=
  ∀ calls more : List OfflineCall, (∀ call ∈ more, call.OnSnapshotOf f) →
    (more.foldl step (run calls)).memory.snapshotView g = (run calls).memory.snapshotView g

theorem viewKept {f g : ResourceId} (apart : MaterializationId.ofResource f ≠ .ofResource g)
    {more : List OfflineCall} (on : ∀ call ∈ more, call.OnSnapshotOf f) (x : OfflineSession) :
    (more.foldl step x).memory.snapshotView g = x.memory.snapshotView g := by
  induction more generalizing x with
  | nil => rfl
  | cons call rest ih =>
    have first := (stepSameBut (on call List.mem_cons_self) x).view apart.symm
    exact (ih (fun other mem => on other (List.mem_cons_of_mem call mem)) (x.step call)).trans first

def snapshotText (id : ResourceId) : String := id.name ++ "/" ++ id.variant

theorem ofResourceText (id : ResourceId) :
    MaterializationId.ofResource id = ⟨"Materialization/" ++ snapshotText id⟩ := by
  refine congrArg MaterializationId.mk ?_
  rw [snapshotText, @String.append_assoc ("Materialization/" ++ id.name) "/" id.variant,
    @String.append_assoc "Materialization/" id.name, @String.append_assoc id.name "/" id.variant]

theorem ofResourceIff {f g : ResourceId} :
    MaterializationId.ofResource f = .ofResource g ↔ snapshotText f = snapshotText g := by
  rw [ofResourceText, ofResourceText, MaterializationId.mk.injEq]
  exact String.append_right_inj _

def counts : TableSchema := ⟨[⟨"entity", .string⟩, ⟨"value", .int⟩]⟩

theorem firstSnapshot {f : ResourceId} (feature : f.type = .feature) :
    let x := run [.createResource f counts]
    x.memory.materializations = .empty ∧
      (x.step (.createMaterialization f)).memory = x.memory.putMaterialization (.ofResource f) [] := by
  have typed : f.checkType [.feature, .label] = .ok () := by simp [ResourceId.checkType, feature]
  have created : (createResource f counts).on .empty =
      (.ok (resourceTable f (.owned [])), Memory.empty.putResource f (.owned [])) := by
    rw [createResourceOn, typed]
    rfl
  have memory : (run [.createResource f counts]).memory = Memory.empty.putResource f (.owned []) :=
    congrArg (·.2) created
  have snapshot : (Memory.empty.putResource f (.owned [])).snapshot f = .ok [] := by
    simp [Memory.snapshot, Memory.records, putResource, Bindings.findInsert, ResourceId.checkType, feature]
    rfl
  have built : (createMaterialization f).on (Memory.empty.putResource f (.owned [])) =
      (.ok (materialization (.ofResource f) []),
        (Memory.empty.putResource f (.owned [])).putMaterialization (.ofResource f) []) := by
    rw [createMaterializationOn, snapshot]
    rfl
  intro x
  refine ⟨by rw [memory]; rfl, ?_⟩
  have stepped : (x.step (.createMaterialization f)).memory = ((createMaterialization f).on x.memory).2 := rfl
  rw [stepped, memory, built]

theorem textShared {f g : ResourceId} (feature : f.type = .feature)
    (same : snapshotText f = snapshotText g) : ¬ Independent f g := by
  intro independent
  obtain ⟨unbuilt, built⟩ := firstSnapshot feature
  have kept := independent [.createResource f counts] [.createMaterialization f] (by simp [OfflineCall.OnSnapshotOf])
  have found : ((getMaterialization (.ofResource g)).on
      ((run [.createResource f counts]).step (.createMaterialization f)).memory).1 =
      ((getMaterialization (.ofResource g)).on (run [.createResource f counts]).memory).1 :=
    congrArg SnapshotView.found kept
  rw [getMaterializationOn, getMaterializationOn, built, unbuilt, ← ofResourceIff.mpr same,
    putMaterialization, Bindings.findInsert, if_pos rfl] at found
  cases found

theorem unslashed {f g : ResourceId} (plain : '/' ∉ f.name.toList ∧ '/' ∉ g.name.toList)
    (same : snapshotText f = snapshotText g) : f.name = g.name ∧ f.variant = g.variant := by
  have chars : f.name.toList ++ '/' :: f.variant.toList = g.name.toList ++ '/' :: g.variant.toList := by
    simpa [snapshotText] using congrArg String.toList same
  have names : f.name.toList = g.name.toList := by
    rw [← (Text.aroundFirst plain.1 _).1, chars, (Text.aroundFirst plain.2 _).1]
  rw [names] at chars
  have variants : f.variant.toList = g.variant.toList := by simpa using chars
  exact ⟨String.toList_inj.mp names, String.toList_inj.mp variants⟩

theorem independentSnapshots {f g : ResourceId} (features : f.type = .feature ∧ g.type = .feature) :
    (Independent f g ↔ snapshotText f ≠ snapshotText g) ∧
      (f ≠ g → '/' ∉ f.name.toList → '/' ∉ g.name.toList → Independent f g) := by
  have apart (texts : snapshotText f ≠ snapshotText g) : Independent f g := fun calls more on =>
    viewKept (fun same => texts (ofResourceIff.mp same)) on (run calls)
  refine ⟨⟨fun independent same => textShared features.1 same independent, apart⟩, ?_⟩
  intro different plain plainOther
  refine apart fun same => different ?_
  obtain ⟨name, variant⟩ := unslashed ⟨plain, plainOther⟩ same
  cases f
  cases g
  simp_all

theorem independentSnapshotsClicks :
    let visits : ResourceId := ⟨"visits", "v1", .feature⟩
    (clicks.type = .feature ∧ visits.type = .feature) ∧ clicks ≠ visits ∧ Independent clicks visits :=
  ⟨⟨rfl, rfl⟩, by decide, (independentSnapshots ⟨rfl, rfl⟩).2 (by decide) (by decide) (by decide)⟩

theorem slashesShareSnapshot :
    ¬ Independent ⟨"a/b", "c", .feature⟩ ⟨"a", "b/c", .feature⟩ :=
  textShared rfl (by decide)

end OfflineSession
end FeatureStore
