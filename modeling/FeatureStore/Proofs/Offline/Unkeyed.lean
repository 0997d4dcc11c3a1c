import FeatureStore.Proofs.Offline.Session
import FeatureStore.Proofs.Record.Latest

/-!
Records without an entity. Writing one to a feature is refused, but a feature that shows the columns of
a source has the rows of that source as they are: its snapshots have a record without an entity if and
only if a row had the empty text for one when they were built.
-/
namespace FeatureStore

namespace ResourceRecord

def Unkeyed (records : List ResourceRecord) : Prop := ∃ r ∈ records, r.entity = ""

theorem latestUnkeyed (records : List ResourceRecord) :
    Unkeyed (latestPerEntity records) ↔ Unkeyed records := by
  have kept := keptLatest records
  constructor
  · rintro ⟨r, mem, nameless⟩
    exact ⟨r, newestMember ((kept.newest r).mp mem), nameless⟩
  · rintro ⟨x, mem, nameless⟩
    obtain ⟨r, newest, same⟩ := newestExists mem
    exact ⟨r, (kept.newest r).mpr newest, same.trans nameless⟩

end ResourceRecord

namespace Memory
open ResourceRecord (Unkeyed)

def NamelessRow (t : MemoryTable) (schema : ResourceSchema) : Prop :=
  ∃ i, t.schema.indexOf? schema.entity = some i ∧ ∃ row ∈ t.rows, row[i]? = some (.string "")

theorem entityEmpty {cell : Option FeatureValue} : entityOf cell = .ok "" ↔ cell = some (.string "") := by
  constructor
  · intro named
    rcases cell with _ | v
    · cases named
    cases v with
    | string s =>
      cases named
      rfl
    | int n =>
      have digits : Nat.toDigits 10 n.toInt.natAbs ≠ [] := Nat.toDigits_ne_nil
      simp only [entityOf, Except.ok.injEq, FeatureValue.intText, Json.intChars] at named
      split at named <;> simp [digits] at named
    | _ => cases named
  · rintro rfl
    rfl

theorem recordEntity {entity value : Nat} {ts : Option Nat} {row : Row} {r : ResourceRecord}
    (read : recordOf entity value ts row = .ok r) : entityOf row[entity]? = .ok r.entity := by
  obtain ⟨e, named, timed⟩ := Task.boundOk read
  dsimp only at timed
  split at timed
  all_goals
    obtain ⟨t, -, last⟩ := Task.boundOk timed
    cases last
    exact named

theorem mapMMembers {α β ε : Type} {f : α → Except ε β} {items : List α} {results : List β}
    (done : items.mapM f = .ok results) :
    (∀ a ∈ items, ∃ b ∈ results, f a = .ok b) ∧ ∀ b ∈ results, ∃ a ∈ items, f a = .ok b := by
  induction items generalizing results with
  | nil =>
    cases done
    simp
  | cons a rest ih =>
    rw [List.mapM_cons] at done
    obtain ⟨b, first, next⟩ := Task.boundOk done
    obtain ⟨more, others, last⟩ := Task.boundOk next
    cases last
    obtain ⟨forth, back⟩ := ih others
    refine ⟨fun x mem => ?_, fun y mem => ?_⟩
    · rcases List.mem_cons.mp mem with rfl | inside
      · exact ⟨b, List.mem_cons_self, first⟩
      · obtain ⟨y, there, read⟩ := forth x inside
        exact ⟨y, List.mem_cons_of_mem b there, read⟩
    · rcases List.mem_cons.mp mem with rfl | inside
      · exact ⟨a, List.mem_cons_self, first⟩
      · obtain ⟨x, there, read⟩ := back y inside
        exact ⟨x, List.mem_cons_of_mem a there, read⟩

theorem recordsOfRows {t : MemoryTable} {schema : ResourceSchema} {records : List ResourceRecord}
    (read : recordsOf t schema = .ok records) :
    ∃ entity value ts, t.schema.indexOf? schema.entity = some entity ∧
      t.rows.mapM (recordOf entity value ts) = .ok records := by
  obtain ⟨entity, found, valued⟩ := Task.boundOk read
  obtain ⟨value, -, timed⟩ := Task.boundOk valued
  have made : ∃ ts, t.rows.mapM (recordOf entity value ts) = .ok records := by
    dsimp only at timed
    split at timed
    all_goals
      obtain ⟨ts, -, rows⟩ := Task.boundOk timed
      exact ⟨ts, rows⟩
  obtain ⟨ts, rows⟩ := made
  refine ⟨entity, value, ts, ?_, rows⟩
  rw [columnIndex] at found
  split at found <;> try contradiction
  rename_i there
  cases found
  exact there

theorem recordsOfUnkeyed {t : MemoryTable} {schema : ResourceSchema} {records : List ResourceRecord}
    (read : recordsOf t schema = .ok records) : Unkeyed records ↔ NamelessRow t schema := by
  obtain ⟨entity, value, ts, column, rows⟩ := recordsOfRows read
  obtain ⟨forth, back⟩ := mapMMembers rows
  constructor
  · rintro ⟨r, mem, nameless⟩
    obtain ⟨row, inside, made⟩ := back r mem
    exact ⟨entity, column, row, inside, entityEmpty.mp (nameless ▸ recordEntity made)⟩
  · rintro ⟨i, same, row, inside, empty⟩
    obtain rfl : entity = i := Option.some.inj (column.symm.trans same)
    obtain ⟨r, mem, made⟩ := forth row inside
    have named := recordEntity made
    rw [entityEmpty.mpr empty] at named
    exact ⟨r, mem, (Except.ok.inj named).symm⟩

end Memory

namespace History
open ResourceRecord (Unkeyed)

def NamelessSource (h : History) (id : ResourceId) : Prop :=
  ∃ schema place t, origin? id h = some (.columns schema place) ∧ table? h place = some t ∧
    Memory.NamelessRow t schema

theorem recordsUnkeyed {h : History} {id : ResourceId} {read : List ResourceRecord}
    (checked : ∀ r ∈ written id h, r.entity ≠ "") (found : records h id = .ok read) :
    Unkeyed read ↔ NamelessSource h id := by
  rw [records] at found
  cases origin : origin? id h with
  | none =>
    rw [origin] at found
    cases found
  | some source =>
    rw [origin] at found
    cases source with
    | owned =>
      cases found
      simpa [NamelessSource, origin, Unkeyed] using checked
    | columns schema place =>
      cases there : table? h place with
      | none =>
        simp only [there] at found
        cases found
        simp [NamelessSource, origin, there, Unkeyed]
      | some t =>
        simp only [there] at found
        rw [Memory.recordsOfUnkeyed found]
        constructor
        · exact fun nameless => ⟨schema, place, t, origin, there, nameless⟩
        · rintro ⟨_, _, _, same, shown, nameless⟩
          cases origin.symm.trans same
          cases there.symm.trans shown
          exact nameless

theorem lastBuildBefore {mat : MaterializationId} {h before : History} {id : ResourceId}
    (last : lastBuild mat h = some (id, before)) : before <:+ h := by
  induction h with
  | nil => cases last
  | cons e h ih =>
    have here : before <:+ h := by
      rw [lastBuild.eq_def] at last
      split at last <;> rename_i same <;> cases same
      · split at last
        · cases last
          exact List.suffix_rfl
        · exact ih last
      · split at last
        · cases last
          exact List.suffix_rfl
        · exact ih last
      · split at last
        · cases last
        · exact ih last
      · exact ih last
    exact here.trans (List.suffix_cons e h)

theorem writtenNext (id : ResourceId) (e : OfflineCall × Bool) (h : History) :
    written id h <+: written id (e :: h) := by
  rw [written.eq_def id (e :: h)]
  split <;> rename_i same <;> cases same
  · split
    · exact List.prefix_append _ _
    · exact List.prefix_rfl
  · exact List.prefix_rfl

theorem writtenEarlier {before h : History} (earlier : before <:+ h) (id : ResourceId) :
    written id before <+: written id h := by
  obtain ⟨later, rfl⟩ := earlier
  induction later with
  | nil => exact List.prefix_rfl
  | cons e later ih => exact ih.trans (writtenNext id e (later ++ before))

end History

namespace OfflineSession
open Memory History
open ResourceRecord (Unkeyed)

theorem unkeyedFromSources (calls : List OfflineCall) {mat : MaterializationId}
    {rows : List ResourceRecord}
    (held : (run calls).memory.materializations.find? mat = some rows) :
    ∃ id before, lastBuild mat (run calls).history = some (id, before) ∧
      (Unkeyed rows ↔ NamelessSource before id) := by
  have tracked := trackedRun calls
  cases last : lastBuild mat (run calls).history with
  | none =>
    have snapshot := tracked.built.snapshots mat
    rw [BuiltAs, last, held] at snapshot
    cases snapshot
  | some build =>
    obtain ⟨id, before⟩ := build
    obtain ⟨read, found, same⟩ := tracked.snapshotHeld last
    obtain rfl := Option.some.inj (held.symm.trans same)
    have checked : ∀ r ∈ written id before, r.entity ≠ "" := fun r mem =>
      tracked.resources.checked id r ((writtenEarlier (lastBuildBefore last) id).subset mem)
    exact ⟨id, before, rfl, (ResourceRecord.latestUnkeyed read).trans (recordsUnkeyed checked found)⟩

def loginCalls : List OfflineCall :=
  [.createPrimary ⟨"logins", "v1", .primary⟩ ⟨[⟨"user", .string⟩, ⟨"count", .int⟩]⟩,
    .registerResource clicks ⟨"user", "count", "", "memory_primary__logins__v1"⟩,
    .writeRow 0 [.string "", .int 1], .writeRow 0 [.string "alice", .int 2],
    .createMaterialization clicks]

def loginRecords : List ResourceRecord := [.ofValue "" (.int 1), .ofValue "alice" (.int 2)]

theorem loginSnapshot :
    (run loginCalls).memory.materializations.find? (.ofResource clicks) = some loginRecords := by
  rfl

theorem unkeyedFromSourcesLogins :
    ∃ id before, lastBuild (.ofResource clicks) (run loginCalls).history = some (id, before) ∧
      (Unkeyed loginRecords ↔ NamelessSource before id) :=
  unkeyedFromSources loginCalls loginSnapshot

theorem unkeyedSnapshot :
    ¬ ∀ mat rows, (run loginCalls).memory.materializations.find? mat = some rows →
      ∀ r ∈ rows, r.entity ≠ "" :=
  fun keyed => keyed _ _ loginSnapshot (.ofValue "" (.int 1)) List.mem_cons_self rfl

end OfflineSession
end FeatureStore
