import FeatureStore.Proofs.Offline.Session
import FeatureStore.Proofs.Online.Naming

/-!
The names of tables of rows. A name joins the name and the variant of the primary resource that its
table was made for, so that two resources may be joined to the same name. Where no name was made twice,
a name leads to one table, whichever resource shows it.
-/
namespace FeatureStore

namespace Memory

def NamesIdentify (m : Memory) : Prop :=
  ∀ a b place other t u, m.primaryAt? a = some (place, t) → m.primaryAt? b = some (other, u) →
    t.name = u.name → place = other

theorem createPrimaryOk {id : ResourceId} {schema : TableSchema} {m : Memory}
    {t : PrimaryTable (StateM Memory)} (ok : ((createPrimary id schema).on m).1 = .ok t) :
    id.type = .primary ∧ m.primaries.find? id = none := by
  rw [createPrimaryOn] at ok
  split at ok <;> try contradiction
  rename_i typed
  split at ok <;> try contradiction
  split at ok <;> try contradiction
  rename_i new
  exact ⟨ResourceId.checkOneIff.mp typed, Bindings.notContainsIff.mp (by simpa using new)⟩

theorem registerPrimaryOk {id : ResourceId} {source : String} {m : Memory}
    {t : PrimaryTable (StateM Memory)} (ok : ((registerPrimary id source).on m).1 = .ok t) :
    m.primaries.find? id = none := by
  rw [registerPrimaryOn] at ok
  split at ok <;> try contradiction
  split at ok <;> try contradiction
  rename_i new
  exact Bindings.notContainsIff.mp (by simpa using new)

structure Attaches (m : Memory) (t : PrimaryTable (StateM Memory)) (place : Nat)
    (table : MemoryTable) : Prop where
  handle : t = primaryTable place table
  there : m.tables[place]? = some table
  primary {id : ResourceId} : id.checkType [.primary] = .ok () → m.primaries.contains id = false →
    (registerPrimary id t.name).on m = (.ok t, m.putPrimary id place)
  resource {id : ResourceId} {schema : ResourceSchema} :
    id.checkType [.feature, .label] = .ok () → m.resources.contains id = false →
    schema.sourceTable = t.name → checkColumns table t.name schema.columns = .ok () →
      ((registerResource id schema).on m).2 = m.putResource id (.columns schema place) ∧
        (m.putResource id (.columns schema place)).records id = recordsOf table schema

theorem attaches {m : Memory} {place : Nat} {table : MemoryTable}
    (there : m.tables[place]? = some table) (named : primaryNamed? m table.name = some (place, table)) :
    Attaches m (primaryTable place table) place table where
  handle := rfl
  there := there
  primary typed new := by
    have named : primaryNamed? m (primaryTable place table).name = some (place, table) := named
    rw [registerPrimaryOn, typed, new, named]
    rfl
  resource typed new source columns := by
    have named : primaryNamed? m (primaryTable place table).name = some (place, table) := named
    refine ⟨?_, ?_⟩
    · simp only [registerResourceOn, typed, new, source, named, columns]
      rfl
    · simp only [Memory.records, putResource, Bindings.findInsert, if_pos, there]

end Memory

open Memory History

namespace History

def Unrepeated (h : History) : Prop :=
  ∀ c ∈ created h, ∀ d ∈ created h, tableName c.1 = tableName d.1 → c.1 = d.1

def Owned (h : History) : Prop :=
  ∀ place c, (created h)[place]? = some c → c.1.type = .primary ∧ place? c.1 h = some place

namespace Owned
variable {h : History}

theorem same {e : OfflineCall × Bool} (owned : Owned h) (tables : created (e :: h) = created h)
    (places : ∀ id, place? id (e :: h) = place? id h) : Owned (e :: h) := by
  intro place c made
  rw [tables] at made
  rw [places]
  exact owned place c made

theorem failed (owned : Owned h) (call : OfflineCall) : Owned ((call, false) :: h) :=
  owned.same (failedTables call h).created (failedTables call h).place

theorem create (owned : Owned h) {id : ResourceId} (typed : id.type = .primary)
    (new : place? id h = none) (schema : TableSchema) : Owned ((.createPrimary id schema, true) :: h) := by
  intro place c made
  simp only [created, List.getElem?_append] at made
  split at made
  · obtain ⟨primary, shown⟩ := owned place c made
    have apart : id ≠ c.1 := by
      rintro rfl
      cases new.symm.trans shown
    exact ⟨primary, by rw [place?, if_neg apart, shown]⟩
  · rename_i beyond
    obtain ⟨last, rfl⟩ : place - (created h).length = 0 ∧ (id, schema) = c := by
      cases rest : place - (created h).length <;> simp_all
    exact ⟨typed, by rw [place?, if_pos rfl]; congr 1; omega⟩

theorem register (owned : Owned h) {id : ResourceId} (new : place? id h = none) (source : String) :
    Owned ((.registerPrimary id source, true) :: h) := by
  intro place c made
  obtain ⟨primary, shown⟩ := owned place c made
  have apart : id ≠ c.1 := by
    rintro rfl
    cases new.symm.trans shown
  exact ⟨primary, by rw [place?, if_neg apart, shown]⟩

end Owned
end History

namespace OfflineSession
variable {x : OfflineSession}

theorem givenOwned {h : History} (owned : Owned h) (call : OfflineCall)
    (answer : Except Failure (PrimaryTable (StateM Memory)))
    (next : ∀ t, answer = .ok t → Owned ((call, true) :: h)) :
    Owned ((call, (OfflineCall.giving .primary answer).1) :: h) := by
  cases answer with
  | error f => exact owned.failed call
  | ok t => exact next t rfl

theorem stepOwned (tracked : x.Tracked) (owned : Owned x.history) (call : OfflineCall) :
    Owned (x.step call).history := by
  cases call with
  | createPrimary id schema =>
    refine givenOwned owned _ ((Memory.createPrimary id schema).on x.memory).1 fun t ok => ?_
    obtain ⟨typed, new⟩ := createPrimaryOk ok
    exact owned.create typed (tracked.tables.primaries id ▸ new) schema
  | registerPrimary id source =>
    refine givenOwned owned _ ((Memory.registerPrimary id source).on x.memory).1 fun t ok => ?_
    exact owned.register (tracked.tables.primaries id ▸ registerPrimaryOk ok) source
  | _ => exact owned.same rfl fun _ => rfl

theorem stepsOwned (tracked : x.Tracked) (owned : Owned x.history) (calls : List OfflineCall) :
    Owned (calls.foldl step x).history := by
  induction calls generalizing x with
  | nil => exact owned
  | cons call rest ih => exact ih (tracked.step call) (stepOwned tracked owned call)

theorem ownedRun (calls : List OfflineCall) : Owned (run calls).history :=
  stepsOwned trackedStart (fun place c made => by simp [start, created] at made) calls

namespace Tracked

theorem madeFor (tracked : x.Tracked) {place : Nat} {t : MemoryTable}
    (there : x.memory.tables[place]? = some t) :
    ∃ c, (created x.history)[place]? = some c ∧ t.name = tableName c.1 := by
  rw [tracked.tables.tables, table?, Option.map_eq_some_iff] at there
  obtain ⟨c, made, rfl⟩ := there
  exact ⟨c, made, rfl⟩

theorem shows (tracked : x.Tracked) (owned : Owned x.history) {place : Nat} {c : ResourceId × TableSchema}
    (made : (created x.history)[place]? = some c) :
    ∃ t, x.memory.primaryAt? c.1 = some (place, t) ∧ t.name = tableName c.1 := by
  have shown := tracked.tables.primaries c.1
  have there := tracked.tables.tables place
  rw [(owned place c made).2] at shown
  rw [table?, made] at there
  exact ⟨_, primaryAtIff.mpr ⟨shown, there⟩, rfl⟩

theorem namesIdentifyIff (tracked : x.Tracked) (owned : Owned x.history) :
    NamesIdentify x.memory ↔ Unrepeated x.history := by
  constructor
  · intro identify c memC d memD same
    obtain ⟨place, madeC⟩ := List.mem_iff_getElem?.mp memC
    obtain ⟨other, madeD⟩ := List.mem_iff_getElem?.mp memD
    obtain ⟨t, shownC, nameC⟩ := tracked.shows owned madeC
    obtain ⟨u, shownD, nameD⟩ := tracked.shows owned madeD
    obtain rfl := identify c.1 d.1 place other t u shownC shownD (by rw [nameC, nameD, same])
    rw [Option.some.inj (madeC.symm.trans madeD)]
  · intro unrepeated a b place other t u shownA shownB same
    obtain ⟨c, madeC, nameC⟩ := tracked.madeFor (primaryAtIff.mp shownA).2
    obtain ⟨d, madeD, nameD⟩ := tracked.madeFor (primaryAtIff.mp shownB).2
    have one := unrepeated c (List.mem_of_getElem? madeC) d (List.mem_of_getElem? madeD)
      (by rw [← nameC, ← nameD, same])
    have placed := (owned place c madeC).2
    rw [one, (owned other d madeD).2] at placed
    exact (Option.some.inj placed).symm

theorem named (tracked : x.Tracked) (owned : Owned x.history) (identify : NamesIdentify x.memory)
    {place : Nat} {t : MemoryTable} (there : x.memory.tables[place]? = some t) :
    primaryNamed? x.memory t.name = some (place, t) := by
  obtain ⟨c, made, name⟩ := tracked.madeFor there
  obtain ⟨u, shown, -⟩ := tracked.shows owned made
  cases found : primaryNamed? x.memory t.name with
  | none =>
    have led := tracked.tables.names t.name
    rw [found, History.named, eq_comm, Option.map_none, List.findIdx?_eq_none_iff] at led
    have other := led c (List.mem_of_getElem? made)
    simp [name] at other
  | some other =>
    obtain ⟨place', t'⟩ := other
    obtain ⟨there', called⟩ := primaryNamedFound found
    obtain ⟨d, made', -⟩ := tracked.madeFor there'
    obtain ⟨u', shown', -⟩ := tracked.shows owned made'
    cases (primaryAtIff.mp shown).2.symm.trans there
    cases (primaryAtIff.mp shown').2.symm.trans there'
    -- Whichever table the name leads to first, it is the same one.
    obtain rfl := identify d.1 c.1 place' place t' t shown' shown called
    rw [Option.some.inj (there'.symm.trans there)]

end Tracked

theorem tableNameKey {id other : ResourceId} (primary : id.type = .primary)
    (otherPrimary : other.type = .primary) (same : tableName id = tableName other) :
    OnlineCall.keyOf (id.name, id.variant) = OnlineCall.keyOf (other.name, other.variant) := by
  have chars := congrArg String.toList same
  simp only [tableName, primary, otherPrimary, String.toList_append, List.append_assoc,
    List.append_cancel_left_eq] at chars
  refine String.toList_inj.mp ?_
  simpa [OnlineCall.keyOf, onlineTableKey] using chars

theorem plainUnrepeated {h : History} (owned : Owned h)
    (plain : ∀ c ∈ created h, OnlineCall.Plain c.1.name) : Unrepeated h := by
  intro c memC d memD same
  obtain ⟨place, madeC⟩ := List.mem_iff_getElem?.mp memC
  obtain ⟨other, madeD⟩ := List.mem_iff_getElem?.mp memD
  have primary := (owned place c madeC).1
  have otherPrimary := (owned other d madeD).1
  have keys := tableNameKey primary otherPrimary same
  have pairs := OnlineCall.plainApart (p := (c.1.name, c.1.variant)) (q := (d.1.name, d.1.variant))
    ⟨plain c memC, plain d memD⟩ keys
  obtain ⟨names, variants⟩ := Prod.mk.inj pairs
  calc c.1 = ⟨c.1.name, c.1.variant, .primary⟩ := by rw [← primary]
    _ = ⟨d.1.name, d.1.variant, .primary⟩ := by rw [names, variants]
    _ = d.1 := by rw [← otherPrimary]

/-- Names identify tables if and only if no two tables were made under one name. Then registering by the
name of any handle leads to the table of the resource that the handle was given for. -/
theorem namesIdentifyTables (calls : List OfflineCall) :
    let x := run calls
    (NamesIdentify x.memory ↔ Unrepeated x.history) ∧
      (Unrepeated x.history → ∀ (number : Nat) (t : PrimaryTable (StateM Memory)),
        x.held[number]?.join = some (.primary t) →
          ∃ id place table, giver x.history number = some (.primary id) ∧
            x.memory.primaryAt? id = some (place, table) ∧ Attaches x.memory t place table) ∧
      ((∀ c ∈ created x.history, OnlineCall.Plain c.1.name) → Unrepeated x.history) := by
  intro x
  have tracked : x.Tracked := trackedRun calls
  have owned : Owned x.history := ownedRun calls
  have identify := tracked.namesIdentifyIff owned
  refine ⟨identify, fun unrepeated number t held => ?_, plainUnrepeated owned⟩
  obtain ⟨id, place, table, given, shown, there, rfl⟩ := tracked.handles held
  have named := tracked.named owned (identify.mpr unrepeated) there
  exact ⟨id, place, table, given, primaryAtIff.mpr ⟨shown, there⟩, attaches there named⟩

def users : TableSchema := ⟨[⟨"user", .string⟩]⟩

def aliasCalls : List OfflineCall :=
  [.createPrimary ⟨"logins", "v1", .primary⟩ users, .createPrimary ⟨"logins", "v2", .primary⟩ users,
    .registerPrimary ⟨"sessions", "v1", .primary⟩ "memory_primary__logins__v2",
    .writeRow 2 [.string "alice"]]

theorem namesIdentifyTablesAlias :
    (∀ c ∈ created (run aliasCalls).history, OnlineCall.Plain c.1.name) ∧
      ∃ t : PrimaryTable (StateM Memory), (run aliasCalls).held[2]?.join = some (OfflineHandle.primary t) ∧
        Attaches (run aliasCalls).memory t 1
          ⟨"memory_primary__logins__v2", users, [[.string "alice"]]⟩ := by
  have plain : ∀ c ∈ created (run aliasCalls).history, OnlineCall.Plain c.1.name := by
    have logins : OnlineCall.Plain "logins" := by
      rw [OnlineCall.Plain]
      decide +kernel
    have tables : created (run aliasCalls).history =
        [(⟨"logins", "v1", .primary⟩, users), (⟨"logins", "v2", .primary⟩, users)] := rfl
    simpa [tables] using logins
  obtain ⟨-, attached, unrepeated⟩ := namesIdentifyTables aliasCalls
  obtain ⟨id, place, table, given, shown, attaches⟩ := attached (unrepeated plain) 2 _ rfl
  cases given
  cases shown
  exact ⟨plain, _, rfl, attaches⟩

def twinCalls : List OfflineCall :=
  [.createPrimary ⟨"a__b", "c", .primary⟩ users, .createPrimary ⟨"a", "b__c", .primary⟩ users,
    .writeRow 0 [.string "alice"]]

theorem twinsUnidentified : ¬ NamesIdentify (run twinCalls).memory := by
  intro identify
  have same := identify ⟨"a__b", "c", .primary⟩ ⟨"a", "b__c", .primary⟩ 0 1 _ _ rfl rfl rfl
  cases same

end OfflineSession
end FeatureStore
