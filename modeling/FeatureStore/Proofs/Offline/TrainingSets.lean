import FeatureStore.Proofs.Offline.Preflight
import FeatureStore.Proofs.Offline.SourceRecords

/-!
Training sets of the PostgreSQL store from their definition to their rows. The statement that makes one
has a column for each feature and one for the label, which are known by their names; each shows the table
of its own resource, and what is read back is in the order of the definition again.
-/
namespace FeatureStore.Postgres

structure Stored where
  entity : String
  value : Option Json
  ts : Timestamp

/- What a table says about an entity at a time: the value of a newest record until then, or nothing when
there is none. -/
def Newest (records : List Stored) (entity : String) (time : Timestamp) (value : Option Json) : Prop :=
  (∃ r ∈ records, r.entity = entity ∧ r.ts.le time = true ∧ r.value = value ∧
    ∀ s ∈ records, s.entity = entity → s.ts.le time = true → s.ts.le r.ts = true) ∨
  value = none ∧ ∀ r ∈ records, r.entity = entity → r.ts.le time = false

structure Lookup where
  table : String
  called : String

structure Selected where
  called : String
  name : String

structure PointInTime where
  target : String
  base : String
  lookups : List Lookup
  columns : List Selected

def Lookup.text (k : Lookup) : String :=
  "LEFT JOIN LATERAL (SELECT value FROM " ++ quoteIdent k.table ++
    " WHERE entity = l.entity AND ts <= l.ts ORDER BY ts DESC LIMIT 1) AS " ++ k.called ++ " ON TRUE"

def Selected.text (c : Selected) : String := c.called ++ ".value AS " ++ c.name

namespace PointInTime

def assembled (target base : String) (columns lookups : List String) : String :=
  "CREATE TABLE " ++ quoteIdent target ++ " AS SELECT " ++ ", ".intercalate columns ++ " FROM " ++
    quoteIdent base ++ " AS l " ++ " ".intercalate lookups

def text (s : PointInTime) : String :=
  assembled s.target s.base (s.columns.map Selected.text) (s.lookups.map Lookup.text)

structure WellNamed (s : PointInTime) : Prop where
  columns : (s.columns.map Selected.name).Nodup
  tables : ("l" :: s.lookups.map Lookup.called).Nodup

def Shows (s : PointInTime) (tables : String → List Stored) (row : Stored) (name : String)
    (value : Option Json) : Prop :=
  ∃ c ∈ s.columns, c.name = name ∧
    (c.called = "l" ∧ value = row.value ∨
      ∃ k ∈ s.lookups, k.called = c.called ∧ Newest (tables k.table) row.entity row.ts value)

end PointInTime

def featureName (index : Nat) : String := "feature_" ++ toString index

def featureCalled (index : Nat) : String := "f" ++ toString index

def pointInTime (d : TrainingSetDef) : PointInTime where
  target := tableName d.id
  base := tableName d.label
  lookups := d.features.mapIdx fun index f => ⟨tableName f, featureCalled index⟩
  columns := (List.range d.features.length).map (fun index => ⟨featureCalled index, featureName index⟩) ++
    [⟨"l", "label"⟩]

theorem numberedSame (word : String) {i j : Nat} (same : word ++ toString i = word ++ toString j) : i = j := by
  have digits : Nat.toDigits 10 i = Nat.toDigits 10 j := by
    have texts := (String.append_right_inj word).mp same
    simpa only [Nat.toString_eq_ofList_toDigits, String.ofList_inj] using texts
  rw [← @Nat.ofDigitChars_ten_toDigits i, digits, Nat.ofDigitChars_ten_toDigits]

theorem featureNotLabel (index : Nat) : featureName index ≠ "label" := by
  intro same
  have first := congrArg (fun s => s.toList.head?) same
  simp [featureName] at first

theorem featureNotBase (index : Nat) : featureCalled index ≠ "l" := by
  intro same
  have first := congrArg (fun s => s.toList.head?) same
  simp [featureCalled] at first

theorem selectedText (index : Nat) :
    featureColumn index = (Selected.mk (featureCalled index) (featureName index)).text := by
  have split : ".value AS feature_" = ".value AS " ++ "feature_" := String.ext (by simp)
  rw [featureColumn, Selected.text, featureCalled, featureName, split]
  simp only [String.append_assoc]

theorem lookupText (index : Nat) (f : ResourceId) :
    featureJoin index f = (Lookup.mk (tableName f) (featureCalled index)).text := by
  have split : " WHERE entity = l.entity AND ts <= l.ts ORDER BY ts DESC LIMIT 1) AS f" =
      " WHERE entity = l.entity AND ts <= l.ts ORDER BY ts DESC LIMIT 1) AS " ++ "f" := String.ext (by simp)
  have carried (before index after : String) :
      before ++ " WHERE entity = l.entity AND ts <= l.ts ORDER BY ts DESC LIMIT 1) AS f" ++ index ++ after =
        before ++ " WHERE entity = l.entity AND ts <= l.ts ORDER BY ts DESC LIMIT 1) AS " ++ ("f" ++ index) ++
          after := by
    simp only [congrArg (before ++ ·) split, String.append_assoc]
  exact carried _ _ _

theorem trainingSetText (d : TrainingSetDef) : trainingSet (tableName d.id) d = (pointInTime d).text := by
  have columns : (List.range d.features.length).map featureColumn ++ ["l.value AS label"] =
      (pointInTime d).columns.map Selected.text := by
    rw [pointInTime, List.map_append, List.map_map]
    exact congrArg₂ (· ++ ·) (List.map_congr_left fun index _ => selectedText index) rfl
  have lookups : d.features.mapIdx featureJoin = (pointInTime d).lookups.map Lookup.text := by
    refine List.ext_getElem? fun index => ?_
    rcases there : d.features[index]? with _ | f <;> simp [pointInTime, there, lookupText]
  exact congrArg₂ (PointInTime.assembled (tableName d.id) (tableName d.label)) columns lookups

section Columns
variable {d : TrainingSetDef} {tables : String → List Stored} {row : Stored} {value : Option Json}

theorem selectedNames (d : TrainingSetDef) : (pointInTime d).columns.map Selected.name =
    (List.range d.features.length).map featureName ++ ["label"] := by
  simp only [pointInTime, List.map_append, List.map_map]
  rfl

theorem tablesCalled (d : TrainingSetDef) : (pointInTime d).lookups.map Lookup.called =
    (List.range d.features.length).map featureCalled := by
  refine List.ext_getElem? fun index => ?_
  by_cases inside : index < d.features.length
  · simp [pointInTime, inside]
  · simp [pointInTime, Nat.le_of_not_lt inside]

theorem pointInTimeNamed (d : TrainingSetDef) : (pointInTime d).WellNamed where
  columns := by
    rw [selectedNames]
    refine List.nodup_append.mpr ⟨List.nodup_range.map_on fun i _ j _ same => numberedSame _ same,
      List.nodup_singleton _, ?_⟩
    rintro _ mem _ last rfl
    obtain ⟨index, -, same⟩ := List.mem_map.mp mem
    exact featureNotLabel index (same.trans (List.mem_singleton.mp last))
  tables := by
    rw [tablesCalled, List.nodup_cons]
    refine ⟨fun mem => ?_, List.nodup_range.map_on fun i _ j _ same => numberedSame _ same⟩
    obtain ⟨index, -, same⟩ := List.mem_map.mp mem
    exact featureNotBase index same

theorem showsLabel : (pointInTime d).Shows tables row "label" value ↔ value = row.value := by
  constructor
  · rintro ⟨c, mem, named, from'⟩
    rcases List.mem_append.mp mem with feature | last
    · obtain ⟨index, -, rfl⟩ := List.mem_map.mp feature
      exact absurd named (featureNotLabel index)
    · obtain rfl := List.mem_singleton.mp last
      rcases from' with ⟨-, same⟩ | ⟨k, mem, called, -⟩
      · exact same
      · obtain ⟨index, inside, rfl⟩ := List.mem_mapIdx.mp mem
        exact absurd called (featureNotBase index)
  · rintro rfl
    exact ⟨⟨"l", "label"⟩, List.mem_append_right _ List.mem_cons_self, rfl, .inl ⟨rfl, rfl⟩⟩

theorem showsFeature {index : Nat} {f : ResourceId} (there : d.features[index]? = some f) :
    (pointInTime d).Shows tables row (featureName index) value ↔
      Newest (tables (tableName f)) row.entity row.ts value := by
  obtain ⟨inside, rfl⟩ := List.getElem?_eq_some_iff.mp there
  constructor
  · rintro ⟨c, mem, named, from'⟩
    rcases List.mem_append.mp mem with feature | last
    · obtain ⟨other, -, rfl⟩ := List.mem_map.mp feature
      obtain rfl := numberedSame _ named
      rcases from' with ⟨base, -⟩ | ⟨k, mem, called, newest⟩
      · exact absurd base (featureNotBase other)
      · obtain ⟨place, within, rfl⟩ := List.mem_mapIdx.mp mem
        obtain rfl := numberedSame _ called
        exact newest
    · obtain rfl := List.mem_singleton.mp last
      exact absurd named.symm (featureNotLabel index)
  · intro newest
    refine ⟨⟨featureCalled index, featureName index⟩, List.mem_append_left _ ?_, rfl, .inr ?_⟩
    · exact List.mem_map.mpr ⟨index, List.mem_range.mpr inside, rfl⟩
    · exact ⟨_, List.mem_mapIdx.mpr ⟨index, inside, rfl⟩, rfl, newest⟩

end Columns

def cellOf (s : PointInTime) (cells : List Cell) (name : String) : Option Cell :=
  ((s.columns.map Selected.name).zip cells).lookup name

def Decodes (cell : Option Cell) (value : FeatureValue) : Prop :=
  ∃ j, cell = some (.json j) ∧ valueOfJson j = .ok value

theorem lookupPlace {α : Type} {names : List String} {values : List α} {index : Nat} {name : String}
    (apart : names.Nodup) (there : names[index]? = some name) :
    (names.zip values).lookup name = values[index]? := by
  induction names generalizing values index with
  | nil => simp at there
  | cons first rest ih =>
    obtain ⟨new, others⟩ := List.nodup_cons.mp apart
    cases values with
    | nil => rfl
    | cons value values =>
      cases index with
      | zero =>
        obtain rfl : first = name := by simpa using there
        simp
      | succ index =>
        have behind : rest[index]? = some name := by simpa using there
        have other : (name == first) = false := by
          simpa using fun same : name = first => new (same ▸ List.mem_of_getElem? behind)
        rw [List.zip_cons_cons, List.lookup_cons, other, List.getElem?_cons_succ]
        exact ih others behind

theorem cellOfLabel (d : TrainingSetDef) (cells : List Cell) :
    cellOf (pointInTime d) cells "label" = cells[d.features.length]? :=
  lookupPlace (pointInTimeNamed d).columns (by simp [selectedNames])

theorem cellOfFeature {d : TrainingSetDef} {index : Nat} (inside : index < d.features.length)
    (cells : List Cell) : cellOf (pointInTime d) cells (featureName index) = cells[index]? :=
  lookupPlace (pointInTimeNamed d).columns (by simp [selectedNames, List.getElem?_append_left, inside])

theorem trainingCellIff {cells : List Cell} {column : Nat} {value : FeatureValue} :
    trainingCell cells column = .ok value ↔ Decodes cells[column]? value := by
  rcases there : cells[column]? with _ | cell
  · simp [trainingCell, readCell, there, cellError, Decodes, bind, Except.bind]
  · cases cell <;>
      simp [trainingCell, readCell, there, cellError, Decodes, Cell.asOptionalJson, bind, Except.bind]

theorem trainingRowIff {cells : List Cell} {count : Nat} (wide : cells.length = count + 1)
    {t : TrainingSetRow} :
    trainingRowOf cells = .ok t ↔ t.features.length = count ∧
      (∀ (index : Nat) (value : FeatureValue), t.features[index]? = some value →
        Decodes cells[index]? value) ∧ Decodes cells[count]? t.label := by
  have last : cells.length - 1 = count := by omega
  have features {results : List FeatureValue} : (List.range count).mapM (trainingCell cells) = .ok results ↔
      List.Forall₂ (fun column value => Decodes cells[column]? value) (List.range count) results :=
    mapMOkIff fun column _ value => trainingCellIff
  have placed {results : List FeatureValue} :
      List.Forall₂ (fun column value => Decodes cells[column]? value) (List.range count) results ↔
        results.length = count ∧
          ∀ (index : Nat) (value : FeatureValue), results[index]? = some value →
            Decodes cells[index]? value := by
    rw [List.forall₂_iff_get]
    refine ⟨fun ⟨size, each⟩ => ⟨by simpa using size.symm, fun index value there => ?_⟩,
      fun ⟨size, each⟩ => ⟨by simpa using size.symm, fun index _ within => ?_⟩⟩
    · obtain ⟨within, rfl⟩ := List.getElem?_eq_some_iff.mp there
      simpa using each index (by omega) within
    · simpa using each index _ (List.getElem?_eq_getElem within)
  obtain ⟨results, label⟩ := t
  simp only [trainingRowOf, last]
  constructor
  · intro done
    obtain ⟨read, first, next⟩ := Task.boundOk done
    obtain ⟨shown, second, same⟩ := Task.boundOk next
    cases same
    obtain ⟨size, each⟩ := placed.mp (features.mp first)
    exact ⟨size, each, trainingCellIff.mp second⟩
  · rintro ⟨size, each, labelled⟩
    rw [features.mpr (placed.mpr ⟨size, each⟩), trainingCellIff.mpr labelled]
    rfl

def makeTrainingSet (d : TrainingSetDef) (update : Bool) : Task Talk Unit :=
  if update then store.updateTrainingSet d else store.createTrainingSet d

theorem makeTrainingSetSteps (d : TrainingSetDef) (update : Bool) :
    ∃ kind id, makeTrainingSet d update = (do
      Task.ofExcept d.check
      requireResources (d.label :: d.features)
      make update (tableName d.id) (trainingSet (tableName d.id) d) kind id) := by
  cases update
  · exact ⟨"training set", d.id.text, bind_assoc _ _ _⟩
  · exact ⟨"training set", "", bind_assoc _ _ _⟩

structure Guarded (ids : List ResourceId) (update : Bool) (table sql : String) (replies : List Reply)
    (x : Heard Unit) : Prop where
  -- Every table is there, or one is the first that is not.
  decided : ListedUpTo ids.length replies ∨ ∃ before id after ended sent, ids = before ++ id :: after ∧
    ListedUpTo before.length replies ∧
    Stops (tableName id) "resource table" id.text (replies.drop (2 * before.length)) ended sent
  -- The catalog is asked about every table before anything is made.
  ordered : x.2 <+: Plan.needing ids ++ making update table sql
  -- The first table that is not there ends the call: with an error that it is missing, if the catalog has
  -- none of that name, and with an error of the storage if the catalog could not be asked.
  stopped {before after : List ResourceId} {id : ResourceId} {ended : Option (Failure × List Reply)}
    {sent : List Request} : ids = before ++ id :: after → ListedUpTo before.length replies →
      Stops (tableName id) "resource table" id.text (replies.drop (2 * before.length)) ended sent →
      x = halted ended (Plan.needing before ++ sent)
  -- If all are there, the table is made as the replies to that let it.
  made : ListedUpTo ids.length replies → ∃ y : Heard Unit,
    Follows ⟨"", []⟩ (making update table sql) (replies.drop (2 * ids.length)) y ∧
      x = (y.1, Plan.needing ids ++ y.2)
  -- Nothing is made otherwise.
  gated {sql : String} : .batch sql ∈ x.2 → ListedUpTo ids.length replies

theorem stopsAsking {table kind id : String} {replies : List Reply}
    {ended : Option (Failure × List Reply)} {sent : List Request}
    (stops : Stops table kind id replies ended sent) : sent <+: question table := by
  cases stops <;> simp [question]

theorem needingAsks {ids : List ResourceId} {sql : String} : .batch sql ∉ Plan.needing ids := fun mem => by
  rcases Plan.needingPlain mem with same | ⟨table, same⟩ <;> cases same

theorem guarded (ids : List ResourceId) (update : Bool) (table sql kind id : String)
    (replies : List Reply) : Guarded ids update table sql replies
      (heard (do requireResources ids; make update table sql kind id) replies) := by
  have follows := makeFollows ⟨"", []⟩ update table sql kind id
  refine ⟨allOrFirst ids replies, ?_, ?_, fun listed => ⟨_, follows _, heardAll listed _⟩, @?_⟩
  · rcases allOrFirst ids replies with listed | ⟨before, missing, after, ended, sent, rfl, listed, stops⟩
    · rw [heardAll listed]
      exact (List.prefix_append_right_inj _).mpr (follows _).ordered
    · rw [heardUpTo listed stops]
      have asked : Plan.needing (before ++ missing :: after) =
          Plan.needing before ++ (question (tableName missing) ++ Plan.needing after) := by
        simp [Plan.needing, question]
      simp only [halted, asked, List.append_assoc]
      exact (List.prefix_append_right_inj _).mpr ((stopsAsking stops).trans (List.prefix_append _ _))
  · rintro before after missing ended sent rfl listed stops
    exact heardUpTo listed stops after _
  · intro other mem
    rcases allOrFirst ids replies with listed | ⟨before, missing, after, ended, sent, rfl, listed, stops⟩
    · exact listed
    · rw [heardUpTo listed stops] at mem
      rcases List.mem_append.mp mem with early | late
      · exact (needingAsks early).elim
      · have asked : .batch other ∈ Plan.needing [missing] := (stopsAsking stops).subset late
        exact (needingAsks asked).elim

/-- A training set is made only when its definition is valid and all its tables are there, from a statement
with one column for each feature and a last one for the label; and what is read back has in each place
what the column of that place holds. -/
theorem trainingSetsByColumn (d : TrainingSetDef) (update : Bool) (replies : List Reply) :
    (match d.check with
      | .error e => heard (makeTrainingSet d update) replies = (some (.error (.error e), replies), [])
      | .ok () => Guarded (d.label :: d.features) update (tableName d.id) (pointInTime d).text replies
          (heard (makeTrainingSet d update) replies)) ∧
    (pointInTime d).columns.map Selected.name =
      (List.range d.features.length).map featureName ++ ["label"] ∧
    (pointInTime d).WellNamed ∧
    (∀ tables row value, (pointInTime d).Shows tables row "label" value ↔ value = row.value) ∧
    (∀ tables row value (index : Nat) f, d.features[index]? = some f →
      ((pointInTime d).Shows tables row (featureName index) value ↔
        Newest (tables (tableName f)) row.entity row.ts value)) ∧
    ∀ first rows rest, d.id.type = .trainingSet → met .connection first = true →
      heard (store.getTrainingSet d.id) (first :: .rows rows :: rest) =
        (some (.ok (rows.map trainingRowOf), rest), [.connection, .query (selectAll (tableName d.id)) []]) ∧
      ∀ cells ∈ rows, cells.length = d.features.length + 1 → ∀ t : TrainingSetRow,
        trainingRowOf cells = .ok t ↔ t.features.length = d.features.length ∧
          (∀ (index : Nat) (value : FeatureValue), t.features[index]? = some value →
            Decodes (cellOf (pointInTime d) cells (featureName index)) value) ∧
          Decodes (cellOf (pointInTime d) cells "label") t.label := by
  refine ⟨?_, selectedNames d, pointInTimeNamed d, fun _ _ _ => showsLabel, fun _ _ _ _ _ => showsFeature, ?_⟩
  · obtain ⟨kind, id, steps⟩ := makeTrainingSetSteps d update
    rw [steps, ← trainingSetText]
    rcases d.check with e | ⟨⟩
    · rfl
    · exact guarded _ _ _ _ _ _ _
  · intro first rows rest type connected
    constructor
    · have allowed : d.id.checkType [.trainingSet] = .ok () := by simp [ResourceId.checkType, type]
      simp only [store, getTrainingSet, allowed]
      exact heardConnected connected _ _
    · intro cells _ wide t
      rw [trainingRowIff wide, cellOfLabel]
      refine and_congr_right fun size => and_congr_left' ?_
      refine forall_congr' fun index => forall_congr' fun value => forall_congr' fun there => ?_
      obtain ⟨within, -⟩ := List.getElem?_eq_some_iff.mp there
      rw [cellOfFeature (by omega)]

theorem trainingSetsByColumnTwice :
    let clicks : ResourceId := ⟨"clicks", "v1", .feature⟩
    let d : TrainingSetDef := ⟨⟨"fraud", "v1", .trainingSet⟩, ⟨"fraud", "v1", .label⟩, [clicks, clicks]⟩
    let listed : Reply := .rows [[.text (some "BASE TABLE")]]
    let cells : List Cell := [.json (some (.ofInt64 1)), .json (some (.ofInt64 2)), .json none]
    d.check = .ok () ∧
      heard (makeTrainingSet d false) [.done, listed, .done, .rows []] =
        (some (.error (.error (.notFound "resource table" clicks.text)), []),
          Plan.needing [d.label, clicks]) ∧
      trainingRowOf cells = .ok ⟨[.int 1, .int 2], .null⟩ := by
  intro clicks d listed cells
  have valid : d.check = .ok () := rfl
  have law := trainingSetsByColumn d false [.done, listed, .done, .rows []]
  refine ⟨valid, ?_, ?_⟩
  · have guarded := law.1
    rw [valid] at guarded
    have labelled : ListedUpTo 1 [.done, listed, .done, .rows []] :=
      fun i small => ⟨.done, listed, [.done, .rows []], _, by simp [show i = 0 by omega], rfl, rfl, rfl⟩
    have needed : d.label :: d.features = [d.label] ++ clicks :: [clicks] := rfl
    exact guarded.stopped needed labelled (.absent rfl (fun state same => by cases same) rfl [])
  · have read := (law.2.2.2.2.2 .done [cells] [] rfl rfl).2 cells List.mem_cons_self rfl
      ⟨[.int 1, .int 2], .null⟩
    refine read.mpr ⟨rfl, fun index value there => ?_, none, rfl, rfl⟩
    match index, there with
    | 0, rfl => exact ⟨some (.ofInt64 1), cellOfFeature (by decide) cells, rfl⟩
    | 1, rfl => exact ⟨some (.ofInt64 2), cellOfFeature (by decide) cells, rfl⟩

end FeatureStore.Postgres
