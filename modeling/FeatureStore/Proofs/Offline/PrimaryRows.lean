import FeatureStore.Proofs.Offline.TrainingSets

/-!
Rows of a table on a PostgreSQL server. A row goes there as one object, whose members are sorted by the
names of the columns, and comes back in the order that the table has then: each value is found again
under the name of its column.
-/
namespace FeatureStore

namespace Json

theorem lookupCons (m : String × Json) (rest : List (String × Json)) (name : String) :
    (m :: rest).lookup name = if name = m.1 then some m.2 else rest.lookup name := by
  rw [List.lookup_cons]
  by_cases here : name = m.1
  · simp [here]
  · have other : (name == m.1) = false := by simpa using here
    rw [other, if_neg here]

theorem insertedLookup (key : String) (value : Json) (members : List (String × Json)) (name : String) :
    (insertMember key value members).lookup name =
      if name = key then some value else members.lookup name := by
  induction members with
  | nil => rw [insertMember, lookupCons]
  | cons m rest ih =>
    obtain ⟨k, v⟩ := m
    rw [insertMember]
    split
    · rw [lookupCons]
    split
    · rename_i after
      have apart : k ≠ key := fun same => String.lt_irrefl key (same ▸ after)
      rw [lookupCons, lookupCons, ih]
      by_cases here : name = k <;> simp [here, apart]
    · rename_i notBefore notAfter
      obtain rfl : k = key := String.le_antisymm notBefore notAfter
      rw [lookupCons, lookupCons]
      by_cases here : name = k <;> simp [here]

theorem foldedLookup {members : List (String × Json)} (apart : (members.map Prod.fst).Nodup)
    (held : List (String × Json)) (name : String) :
    (members.foldl (fun out m => insertMember m.1 m.2 out) held).lookup name =
      (members.lookup name).or (held.lookup name) := by
  induction members generalizing held with
  | nil => rfl
  | cons m rest ih =>
    obtain ⟨new, others⟩ := List.nodup_cons.mp apart
    rw [List.foldl_cons, ih others, insertedLookup, lookupCons]
    by_cases here : name = m.1
    · have absent : rest.lookup name = none := by
        refine List.lookup_eq_none_iff.mpr fun p mem => ?_
        have other : name ≠ p.1 := by
          intro same
          rw [← here, same] at new
          exact new (List.mem_map_of_mem mem)
        simpa using other
      rw [absent, if_pos here, if_pos here]
      rfl
    · rw [if_neg here, if_neg here]

end Json

namespace Postgres
open FeatureValue (ofPlain)
variable {α : Type}

theorem rowObjectMember {names : List String} {row : Row} (apart : names.Nodup)
    (fits : names.length = row.length) {index : Nat} {name : String} {value : FeatureValue}
    (named : names[index]? = some name) (there : row[index]? = some value) :
    (rowObject names row).find? name = some value.toPlain := by
  have keys : (names.zip (row.map FeatureValue.toPlain)).map Prod.fst = names :=
    List.map_fst_zip (by simp [fits])
  rw [← keys] at apart
  have found := Json.foldedLookup apart [] name
  rw [keys] at apart
  rw [lookupPlace apart named, List.getElem?_map, there] at found
  exact found

def columnsOf : Reply → List String
  | .columns names => names
  | _ => []

def looking (table : String) : List Request := [.connection, .prepare (noRows table)]

section Looking
variable {table : String} {first reply : Reply} (f : List String → Task Talk α)

theorem heardColumns (connected : met .connection first = true) (answered : ∀ state, reply ≠ .failed state)
    (rest : List Reply) :
    heard (connect >>= fun _ => columnNames table >>= f) (first :: reply :: rest) =
      ((heard (f (columnsOf reply)) rest).1, looking table ++ (heard (f (columnsOf reply)) rest).2) := by
  rw [heardConnected connected, columnNames, prepare, heardAskThen, toldAnswered answered]
  cases reply <;> rfl

theorem columnsFirst (replies : List Reply) :
    (∃ first reply rest, replies = first :: reply :: rest ∧ met .connection first = true ∧
      ∀ state, reply ≠ .failed state) ∨
    (heard (connect >>= fun _ => columnNames table >>= f) replies).2 <+: looking table := by
  rcases replies with _ | ⟨first, rest⟩
  · exact .inr ⟨[.prepare (noRows table)], rfl⟩
  by_cases connected : met .connection first = true
  · rcases rest with _ | ⟨reply, rest⟩
    · right
      rw [heardConnected connected]
      exact List.prefix_rfl
    by_cases failed : ∃ state, reply = .failed state
    · obtain ⟨state, rfl⟩ := failed
      right
      rw [heardConnected connected, columnNames, prepare, heardAskThen]
      exact List.prefix_rfl
    · exact .inl ⟨first, reply, rest, rfl, connected, fun state same => failed ⟨state, same⟩⟩
  · cases first with
    | refused reason => exact .inr ⟨[.prepare (noRows table)], rfl⟩
    | _ => exact absurd rfl connected

end Looking

def misfit (table : String) (columns values : Nat) : Error :=
  .invalidInput ("row has " ++ toString values ++ " values but table " ++ table ++ " has " ++
    toString columns ++ " columns")

section Writing
variable {table : String} {row : Row} {first reply : Reply}

theorem unfitRefused (connected : met .connection first = true)
    (answered : ∀ state, reply ≠ .failed state) (unfit : (columnsOf reply).length ≠ row.length)
    (rest : List Reply) :
    heard (writeRow table row) (first :: reply :: rest) =
      (some (.error (.error (misfit table (columnsOf reply).length row.length)), rest), looking table) := by
  rw [writeRow, heardColumns _ connected answered, if_pos unfit]
  rfl

theorem executeSends (sql : String) (params : List Param) (error : Refusal → Error) (replies : List Reply) :
    (heard (execute sql params error) replies).2 = [.query sql params] := by
  cases replies with
  | nil => rfl
  | cons reply rest => rw [execute, heardAsk]

theorem fittingInserted (connected : met .connection first = true)
    (answered : ∀ state, reply ≠ .failed state) (fits : (columnsOf reply).length = row.length)
    (rest : List Reply) :
    (heard (writeRow table row) (first :: reply :: rest)).2 = looking table ++
      [.query (insertRow table) [.json (rowObject (columnsOf reply) row)]] := by
  rw [writeRow, heardColumns _ connected answered, if_neg (not_not_intro fits)]
  exact congrArg (looking table ++ ·) (executeSends _ _ _ rest)

theorem insertedFits {replies : List Reply} {sql : String} {params : List Param}
    (sent : .query sql params ∈ (heard (writeRow table row) replies).2) :
    ∃ first reply rest, replies = first :: reply :: rest ∧ (columnsOf reply).length = row.length ∧
      sql = insertRow table ∧ params = [.json (rowObject (columnsOf reply) row)] := by
  rcases columnsFirst _ replies with ⟨first, reply, rest, rfl, connected, answered⟩ | early
  · by_cases fits : (columnsOf reply).length = row.length
    · rw [fittingInserted connected answered fits] at sent
      obtain ⟨rfl, rfl⟩ : sql = insertRow table ∧ params = [.json (rowObject (columnsOf reply) row)] := by
        simpa [looking] using sent
      exact ⟨first, reply, rest, rfl, fits, rfl, rfl⟩
    · rw [unfitRefused connected answered fits] at sent
      simp [looking] at sent
  · have asked := early.subset sent
    simp [looking] at asked

end Writing

structure Aligned (names order : List String) (row values : Row) : Prop where
  width : values.length = order.length
  supplied : ∀ (place : Nat) name, order[place]? = some name → ∃ (index : Nat) (value : FeatureValue),
    names[index]? = some name ∧ row[index]? = some value ∧ values[place]? = some (ofPlain value.toPlain)
  kept : ∀ (index : Nat) (value : FeatureValue), row[index]? = some value → ∃ (place : Nat) (name : String),
    names[index]? = some name ∧ order[place]? = some name ∧ values[place]? = some (ofPlain value.toPlain)

section Reading
variable {table : String} {names order : List String}

theorem readAligned {row : Row} (apart : names.Nodup) (fits : row.length = names.length)
    (reordered : order.Perm names) :
    ∃ values, rowOf order [.json (some (rowObject names row))] = .ok values ∧ Aligned names order row values := by
  have found {index place : Nat} {name : String} {value : FeatureValue} (named : names[index]? = some name)
      (there : row[index]? = some value) (at_ : order[place]? = some name) :
      (order.map fun c => (((rowObject names row).find? c).map ofPlain).getD .null)[place]? =
        some (ofPlain value.toPlain) := by
    rw [List.getElem?_map, at_, Option.map_some, rowObjectMember apart fits.symm named there]
    rfl
  refine ⟨_, rfl, by rw [List.length_map], ?_, ?_⟩
  · intro place name at_
    obtain ⟨index, named⟩ := List.mem_iff_getElem?.mp (reordered.subset (List.mem_of_getElem? at_))
    have within : index < row.length := fits ▸ (List.getElem?_eq_some_iff.mp named).1
    have there := List.getElem?_eq_getElem within
    exact ⟨index, _, named, there, found named there at_⟩
  · intro index value there
    have within : index < names.length := fits ▸ (List.getElem?_eq_some_iff.mp there).1
    have named := List.getElem?_eq_getElem within
    obtain ⟨place, at_⟩ := List.mem_iff_getElem?.mp (reordered.symm.subset (List.mem_of_getElem? named))
    exact ⟨place, _, named, at_, found named there at_⟩

theorem pageAligned {page : List Row} (apart : names.Nodup) (fits : ∀ row ∈ page, row.length = names.length)
    (reordered : order.Perm names) :
    ∃ read : List Row, (page.map fun row => rowOf order [.json (some (rowObject names row))]) = read.map .ok ∧
      List.Forall₂ (Aligned names order) page read := by
  induction page with
  | nil => exact ⟨[], rfl, .nil⟩
  | cons row page ih =>
    obtain ⟨values, first, aligned⟩ := readAligned apart (fits row List.mem_cons_self) reordered
    obtain ⟨read, more, others⟩ := ih fun other mem => fits other (List.mem_cons_of_mem row mem)
    exact ⟨values :: read, by rw [List.map_cons, first, more, List.map_cons], .cons aligned others⟩

theorem rowsHeard {first : Reply} (connected : met .connection first = true) (most : Int64)
    (rows : List (List Cell)) (rest : List Reply) :
    heard (rowsUpTo table most) (first :: .columns order :: .rows rows :: rest) =
      (some (.ok (rows.map (rowOf order)), rest),
        looking table ++ [.query (rowSegment table) [.bigint (max most 0)]]) := by
  rw [rowsUpTo, heardColumns _ connected (fun state same => by cases same), query, heardAskThen]
  rfl

end Reading

/-- A row is inserted only if it has one value for each column, and the page of rows that a reader gets back
has every value under its column, in whatever order the columns are told then. -/
theorem rowsLineUp (table : String) :
    (∀ row replies sql params, .query sql params ∈ (heard ((primaryTable table).write row) replies).2 →
      ∃ first reply rest, replies = first :: reply :: rest ∧ (columnsOf reply).length = row.length ∧
        sql = insertRow table ∧ params = [.json (rowObject (columnsOf reply) row)]) ∧
    (∀ (row : Row) first names rest, met .connection first = true → names.length ≠ row.length →
      heard ((primaryTable table).write row) (first :: .columns names :: rest) =
        (some (.error (.error (.invalidInput ("row has " ++ toString row.length ++ " values but table " ++
          table ++ " has " ++ toString names.length ++ " columns"))), rest),
          [.connection, .prepare (noRows table)])) ∧
    (∀ (row : Row) first names rest, met .connection first = true → names.length = row.length →
      (heard ((primaryTable table).write row) (first :: .columns names :: rest)).2 =
        [.connection, .prepare (noRows table), .query (insertRow table) [.json (rowObject names row)]]) ∧
    ∀ (names order : List String) (page : List Row) most first rest, names.Nodup → order.Perm names →
      (∀ row ∈ page, row.length = names.length) → met .connection first = true →
      ∃ read : List Row,
        heard ((primaryTable table).rows most) (first :: .columns order ::
            .rows (page.map fun row => [.json (some (rowObject names row))]) :: rest) =
          (some (.ok (read.map .ok), rest), [.connection, .prepare (noRows table),
            .query (rowSegment table) [.bigint (max most 0)]]) ∧
        List.Forall₂ (Aligned names order) page read := by
  have columns (names : List String) (state : String) : Reply.columns names ≠ .failed state := by
    intro same
    cases same
  refine ⟨fun row replies sql params => insertedFits, ?unfit, ?fitting, ?read⟩
  case unfit =>
    intro row first names rest connected unfit
    exact unfitRefused connected (columns names) unfit rest
  case fitting =>
    intro row first names rest connected fits
    exact fittingInserted connected (columns names) fits rest
  case read =>
    intro names order page most first rest apart reordered fits connected
    obtain ⟨read, same, aligned⟩ := pageAligned apart fits reordered
    refine ⟨read, (rowsHeard connected most _ rest).trans ?_, aligned⟩
    rw [List.map_map, ← same]
    rfl

theorem rowsLineUpReordered :
    heard ((primaryTable "t").write [.null]) [.done, .columns ["id", "b", "a"]] =
      (some (.error (.error (.invalidInput "row has 1 values but table t has 3 columns")), []),
        [.connection, .prepare (noRows "t")]) ∧
    (heard ((primaryTable "t").write [.null, .int 1, .bool true]) [.done, .columns ["id", "b", "a"]]).2 =
      [.connection, .prepare (noRows "t"), .query (insertRow "t")
        [.json (rowObject ["id", "b", "a"] [.null, .int 1, .bool true])]] ∧
    ∃ read : List Row,
      heard ((primaryTable "t").rows 10) [.done, .columns ["a", "id", "b"],
          .rows [[.json (some (rowObject ["id", "b", "a"] [.null, .int 1, .bool true]))]]] =
        (some (.ok (read.map .ok), []), [.connection, .prepare (noRows "t"),
          .query (rowSegment "t") [.bigint 10]]) ∧
      List.Forall₂ (Aligned ["id", "b", "a"] ["a", "id", "b"]) [[.null, .int 1, .bool true]] read := by
  obtain ⟨-, unfit, fitting, read⟩ := rowsLineUp "t"
  refine ⟨unfit [.null] .done ["id", "b", "a"] [] rfl (by decide), ?_, ?_⟩
  · exact fitting [.null, .int 1, .bool true] .done ["id", "b", "a"] [] rfl rfl
  · exact read ["id", "b", "a"] ["a", "id", "b"] [[.null, .int 1, .bool true]] 10 .done [] (by decide)
      (by decide) (by simp) rfl

end Postgres
end FeatureStore
