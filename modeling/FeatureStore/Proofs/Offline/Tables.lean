import FeatureStore.Proofs.Offline.History
import FeatureStore.Proofs.Offline.Memory

/-!
The tables of rows of the store in memory are those that the history of calls tells of: the same
tables in the same places, shown by the same primary resources, with the rows written to them.
-/
namespace FeatureStore

namespace Memory

theorem primaryAtIff {m : Memory} {id : ResourceId} {place : Nat} {t : MemoryTable} :
    m.primaryAt? id = some (place, t) ↔ m.primaries.find? id = some place ∧ m.tables[place]? = some t := by
  simp only [primaryAt?, bind, Option.bind_eq_some_iff]
  constructor
  · rintro ⟨place, shown, t, there, last⟩
    cases Option.some.inj last
    exact ⟨shown, there⟩
  · rintro ⟨shown, there⟩
    exact ⟨place, shown, t, there, rfl⟩

def shownAs (m : Memory) (name : String) (place : Nat) : Option (Nat × MemoryTable) :=
  match m.tables[place]? with
  | some t => if t.name = name then some (place, t) else none
  | none => none

theorem primaryNamedShown (m : Memory) (name : String) :
    primaryNamed? m name = m.primaries.values.findSome? (m.shownAs name) := rfl

theorem primaryNamedFound {m : Memory} {name : String} {place : Nat} {t : MemoryTable}
    (found : primaryNamed? m name = some (place, t)) :
    m.tables[place]? = some t ∧ t.name = name := by
  obtain ⟨shown, -, same⟩ := List.exists_of_findSome?_eq_some found
  split at same <;> try contradiction
  rename_i there
  split at same <;> try contradiction
  rename_i called
  cases same
  exact ⟨there, called⟩

theorem findSomeSame {α β : Type} {items : List α} {f g : α → Option β}
    (same : ∀ x ∈ items, f x = g x) : items.findSome? f = items.findSome? g := by
  induction items with
  | nil => rfl
  | cons x rest ih =>
    have more := ih fun y mem => same y (List.mem_cons_of_mem x mem)
    rw [List.findSome?_cons, List.findSome?_cons, same x List.mem_cons_self, more]

theorem namedAddTable {m : Memory} {id : ResourceId} (new : m.primaries.contains id = false)
    (placed : ∀ place ∈ m.primaries.values, place < m.tables.length) (t : MemoryTable) (name : String) :
    primaryNamed? (m.addTable id t) name =
      (primaryNamed? m name).or (if t.name = name then some (m.tables.length, t) else none) := by
  have shown : (m.addTable id t).primaries.values = m.primaries.values ++ [m.tables.length] :=
    Bindings.insertNew m.tables.length new
  have old : m.primaries.values.findSome? ((m.addTable id t).shownAs name) =
      m.primaries.values.findSome? (m.shownAs name) := by
    refine findSomeSame fun place mem => ?_
    simp only [shownAs, addTable, List.getElem?_append_left (placed place mem)]
  have last : [m.tables.length].findSome? ((m.addTable id t).shownAs name) =
      if t.name = name then some (m.tables.length, t) else none := by
    by_cases called : t.name = name <;> simp [shownAs, addTable, called]
  rw [primaryNamedShown, shown, List.findSome?_append, old, last, primaryNamedShown]

theorem namedPutPrimary {m : Memory} {id : ResourceId} (new : m.primaries.contains id = false)
    {source : String} {place : Nat} {t : MemoryTable}
    (found : primaryNamed? m source = some (place, t)) (name : String) :
    primaryNamed? (m.putPrimary id place) name = primaryNamed? m name := by
  obtain ⟨there, called⟩ := primaryNamedFound found
  have shown : (m.putPrimary id place).primaries.values = m.primaries.values ++ [place] :=
    Bindings.insertNew place new
  have last : [place].findSome? (m.shownAs name) = if t.name = name then some (place, t) else none := by
    by_cases same : t.name = name <;> simp [shownAs, there, same]
  have added : primaryNamed? (m.putPrimary id place) name =
      (primaryNamed? m name).or (if t.name = name then some (place, t) else none) := by
    rw [primaryNamedShown, shown, List.findSome?_append, ← last]
    rfl
  rw [added]
  by_cases same : t.name = name
  · rw [← same, called, found, Option.some_or]
  · rw [if_neg same, Option.or_none]

theorem namedAddRow (m : Memory) (place : Nat) (row : Row) (name : String) :
    (primaryNamed? (m.addRow place row) name).map (·.1) = (primaryNamed? m name).map (·.1) := by
  have same (shown : Nat) :
      ((m.addRow place row).shownAs name shown).map (·.1) = (m.shownAs name shown).map (·.1) := by
    simp only [shownAs, addRow, List.getElem?_modify]
    cases m.tables[shown]? with
    | none => simp
    | some t =>
      by_cases here : place = shown <;> by_cases called : t.name = name <;> simp [here, called]
  have values : (m.addRow place row).primaries.values = m.primaries.values := rfl
  rw [primaryNamedShown, primaryNamedShown, values, List.map_findSome?, List.map_findSome?]
  exact congrArg (List.findSome? · m.primaries.values) (funext same)

end Memory

open Memory History

structure TracksTables (h : History) (m : Memory) : Prop where
  tables (place : Nat) : m.tables[place]? = table? h place
  count : m.tables.length = (created h).length
  primaries (id : ResourceId) : m.primaries.find? id = place? id h
  placed : ∀ place ∈ m.primaries.values, place < m.tables.length
  names (name : String) : (primaryNamed? m name).map (·.1) = named h name
  unfilled (place : Nat) : (created h).length ≤ place → rows place h = []

namespace TracksTables
variable {h : History} {m : Memory}

theorem start : TracksTables [] .empty where
  tables _ := rfl
  count := rfl
  primaries _ := rfl
  placed := by simp [Memory.empty, Bindings.values, Bindings.empty]
  names _ := rfl
  unfilled _ _ := rfl

theorem tableSame {e : OfflineCall × Bool} (same : SameTables e h) (place : Nat) :
    table? (e :: h) place = table? h place := by
  rw [table?, table?, same.created, same.rows]

theorem same {e : OfflineCall × Bool} (tracks : TracksTables h m) (same : SameTables e h) {after : Memory}
    (tables : after.tables = m.tables) (primaries : after.primaries = m.primaries) :
    TracksTables (e :: h) after := by
  have named (name : String) : primaryNamed? after name = primaryNamed? m name := by
    rw [primaryNamed?, primaryNamed?, tables, primaries]
  refine ⟨fun place => ?_, ?_, fun id => ?_, ?_, fun name => ?_, fun place beyond => ?_⟩
  · rw [tables, tableSame same, tracks.tables]
  · rw [tables, same.created, tracks.count]
  · rw [primaries, same.place, tracks.primaries]
  · rw [primaries, tables]
    exact tracks.placed
  · rw [named, tracks.names, History.named, History.named, same.created]
  · rw [same.rows]
    exact tracks.unfilled place (same.created ▸ beyond)

theorem createPrimary (tracks : TracksTables h m) {id : ResourceId} (schema : TableSchema)
    (new : m.primaries.contains id = false) :
    TracksTables ((.createPrimary id schema, true) :: h) (m.addTable id ⟨tableName id, schema, []⟩) := by
  have rowsSame (place : Nat) : rows place ((.createPrimary id schema, true) :: h) = rows place h := rfl
  have createdNext : created ((.createPrimary id schema, true) :: h) = created h ++ [(id, schema)] := rfl
  refine ⟨fun place => ?_, ?_, fun other => ?_, ?_, fun name => ?_, fun place beyond => ?_⟩
  · rw [table?, rowsSame, createdNext]
    simp only [addTable, List.getElem?_append, tracks.count]
    split
    · rw [tracks.tables, table?]
    · rename_i beyond
      have empty := tracks.unfilled place (Nat.le_of_not_lt beyond)
      cases place - (created h).length <;> simp [empty]
  · simp [addTable, createdNext, tracks.count]
  · simp only [addTable, Bindings.findInsert, place?, tracks.primaries, tracks.count]
  · have values : (m.addTable id ⟨tableName id, schema, []⟩).primaries.values =
        m.primaries.values ++ [m.tables.length] := Bindings.insertNew _ new
    intro place mem
    rw [values] at mem
    simp only [addTable, List.length_append, List.length_singleton]
    rcases List.mem_append.mp mem with old | last
    · exact Nat.lt_succ_of_lt (tracks.placed place old)
    · rw [List.mem_singleton.mp last]
      exact Nat.lt_succ_self _
  · rw [namedAddTable new tracks.placed, namedCreated, ← tracks.names, ← tracks.count]
    cases primaryNamed? m name with
    | some found => rfl
    | none =>
      simp only [Option.map_none, Option.none_or]
      split <;> rfl
  · rw [createdNext, List.length_append] at beyond
    rw [rowsSame]
    exact tracks.unfilled place (Nat.le_trans (Nat.le_add_right _ _) beyond)

theorem registerPrimary (tracks : TracksTables h m) {id : ResourceId} {source : String}
    (new : m.primaries.contains id = false) {place : Nat} {t : MemoryTable}
    (found : primaryNamed? m source = some (place, t)) :
    TracksTables ((.registerPrimary id source, true) :: h) (m.putPrimary id place) := by
  have led : named h source = some place := by
    rw [← tracks.names, found]
    rfl
  refine ⟨tracks.tables, tracks.count, fun other => ?_, ?_, fun name => ?_, tracks.unfilled⟩
  · simp only [putPrimary, Bindings.findInsert, place?, tracks.primaries, led]
  · have values : (m.putPrimary id place).primaries.values = m.primaries.values ++ [place] :=
      Bindings.insertNew place new
    intro shown mem
    rw [values] at mem
    rcases List.mem_append.mp mem with old | last
    · exact tracks.placed shown old
    · rw [List.mem_singleton.mp last]
      exact (List.getElem?_eq_some_iff.mp (primaryNamedFound found).1).1
  · rw [namedPutPrimary new found]
    exact tracks.names name

theorem writeRow (tracks : TracksTables h m) {id : ResourceId} {handle place : Nat}
    (given : giver h handle = some (.primary id)) (shown : place? id h = some place)
    (inside : place < m.tables.length) (row : Row) :
    TracksTables ((.writeRow handle row, true) :: h) (m.addRow place row) := by
  have filled (other : Nat) : rows other ((.writeRow handle row, true) :: h) =
      if place = other then rows other h ++ [row] else rows other h := by
    simp only [rows, given, shown, Option.some.injEq]
  refine ⟨fun other => ?_, ?_, tracks.primaries, ?_, fun name => ?_, fun other beyond => ?_⟩
  · have createdSame : created ((.writeRow handle row, true) :: h) = created h := rfl
    rw [table?, filled, createdSame]
    simp only [addRow, List.getElem?_modify, tracks.tables, table?]
    by_cases here : place = other <;> cases (created h)[other]? <;> simp [here]
  · simp [addRow, tracks.count, created]
  · simpa [addRow] using tracks.placed
  · rw [namedAddRow]
    exact tracks.names name
  · have apart : place ≠ other := by
      rintro rfl
      exact absurd (tracks.count ▸ inside) (Nat.not_lt_of_le beyond)
    rw [filled, if_neg apart]
    exact tracks.unfilled other beyond

end TracksTables
end FeatureStore
