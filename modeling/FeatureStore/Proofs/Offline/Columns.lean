import FeatureStore.Proofs.Offline.TrainingSets
import FeatureStore.Proofs.Value

/-!
Columns of values on a PostgreSQL server. The store writes a value with its kind beside it, and a view over
a source table shows bare values. A reader tells the two apart by the shape of an object alone, so that it
recognises everything that the store wrote, and takes a bare object of that shape for something written.
-/
namespace FeatureStore.Postgres
open FeatureValue (Kind content ofPlain)
open Json (Decoder Fault Tree)

theorem pairHeight (tag : String) (plain : Json) :
    (Json.object [("type", .string tag), ("value", plain)]).height = plain.height + 1 := by
  simp [Json.height, Json.heightMembers]

theorem decodedPair (tag : String) (plain : Json) :
    Json.decodeJson FeatureValue.decoder (.object [("type", .string tag), ("value", plain)]) =
      (Decoder.named Kind.all tag).bind fun kind => content kind (plain.height + 1) (Tree.ofJson plain) := by
  rw [Json.decodeJson, pairHeight, FeatureValue.namedRead]

theorem decodedLone (tag : String) :
    Json.decodeJson FeatureValue.decoder (.object [("type", .string tag)]) =
      (Decoder.named Kind.all tag).bind fun kind =>
        if kind = .null then .ok .null else .error (.missingField "value") := by
  have height : (Json.object [("type", .string tag)]).height = 1 := by
    simp [Json.height, Json.heightMembers]
  have entered : Json.enter 2 = .ok 1 := rfl
  have walked : Decoder.Tagged.members FeatureValue.tagged 1 .start
      (Tree.ofMembers [("type", .string tag)]) = (Decoder.named Kind.all tag).map .tag := by
    simp only [Tree.ofMembers, Decoder.Tagged.members, Json.Literal.of, bind, Except.bind,
      FeatureValue.tagMet]
    cases Decoder.named Kind.all tag <;> rfl
  simp only [Json.decodeJson, height, FeatureValue.decoder, Decoder.tagged, Tree.ofJson, entered, walked,
    bind, Except.bind]
  cases Decoder.named Kind.all tag with
  | error fault => rfl
  | ok kind => cases kind <;> rfl

theorem taggedReads {j : Json} (tagged : isTagged j = true) :
    valueOfJson (some j) =
      (Json.decodeJson FeatureValue.decoder j).mapError (.deserialization "postgres value") := by
  rw [valueOfJson, if_pos tagged]
  cases Json.decodeJson FeatureValue.decoder j <;> rfl

theorem taggedForm (v : FeatureValue) : isTagged (jsonOfValue v) = true := by
  cases v <;> simp [jsonOfValue, FeatureValue.toJson, isTagged]

theorem infiniteRefused {x : Binary64} (infinite : ¬ x.isFinite = true) (depth : Nat) :
    Decoder.binary64 depth (Tree.ofJson (.ofBinary64 x)) = .error (.invalidType .null "f64") := by
  rw [Json.ofBinary64, dif_neg infinite]
  rfl

theorem infiniteStops {items : List Binary64} (infinite : ¬ items.all Binary64.isFinite = true)
    (depth : Nat) : Decoder.listItems Decoder.binary64 depth (Tree.ofItems (items.map .ofBinary64)) =
      .error (.invalidType .null "f64") := by
  induction items with
  | nil => exact absurd rfl infinite
  | cons x xs ih =>
    simp only [List.map_cons, Tree.ofItems, Decoder.listItems, bind, Except.bind]
    by_cases finite : x.isFinite = true
    · simp only [List.all_cons, finite, Bool.true_and] at infinite
      simp only [FeatureValue.doubleRead finite, ih infinite]
    · rw [infiniteRefused finite]

theorem infiniteContent {v : FeatureValue} (infinite : ¬ v.Finite = true) {depth : Nat}
    (room : v.toPlain.height < depth) :
    content v.kind depth (Tree.ofJson v.toPlain) = .error (.invalidType .null "f64") := by
  cases v with
  | float x => exact congrArg (Except.map FeatureValue.float) (infiniteRefused infinite depth)
  | floats items =>
    rw [FeatureValue.toPlain, Json.height] at room
    obtain ⟨inside, entered, -⟩ := Json.enterInside room
    have stopped : Decoder.list Decoder.binary64 depth (Tree.ofJson (.array (items.map .ofBinary64))) =
        .error (.invalidType .null "f64") := by
      simp only [Tree.ofJson, Decoder.list, bind, Except.bind, entered, infiniteStops infinite]
    exact congrArg (Except.map FeatureValue.floats) stopped
  | _ => exact absurd rfl infinite

/-- Whatever the store has written for a value is recognised, also for JSON that has the same shape, and read
as that value; the one exception is a number that is not finite, which is never read. -/
theorem writtenReadsBack (v : FeatureValue) (ordered : v.Ordered = true) :
    isTagged (jsonOfValue v) = true ∧
      valueOfJson (some (jsonOfValue v)) =
        if v.Finite = true then .ok v
        else .error (.deserialization "postgres value" (.invalidType .null "f64")) := by
  have decoded : Json.decodeJson FeatureValue.decoder v.toJson =
      if v.Finite = true then .ok v else .error (.invalidType .null "f64") := by
    have pair (v : FeatureValue) (ordered : v.Ordered = true) :
        Json.decodeJson FeatureValue.decoder (.object [("type", .string v.kind.name), ("value", v.toPlain)]) =
          if v.Finite = true then .ok v else .error (.invalidType .null "f64") := by
      rw [decodedPair, FeatureValue.kindNamed, Except.bind]
      split
      · rename_i finite
        exact FeatureValue.plainRead finite ordered (Nat.lt_succ_self _)
      · rename_i infinite
        exact infiniteContent infinite (Nat.lt_succ_self _)
    cases v with
    | null => exact decodedLone _
    | _ => exact pair _ ordered
  refine ⟨taggedForm v, ?_⟩
  rw [taggedReads (taggedForm v), jsonOfValue, decoded]
  split <;> rfl

theorem writtenReadsBackShape :
    let v : FeatureValue := .json (.object [("type", .string "Int"), ("value", .ofInt64 5)])
    v.Ordered = true ∧ isTagged (jsonOfValue v) = true ∧ valueOfJson (some (jsonOfValue v)) = .ok v := by
  intro v
  have ordered : v.Ordered = true := by decide
  obtain ⟨tagged, read⟩ := writtenReadsBack v ordered
  exact ⟨ordered, tagged, read⟩

/-! Bare values, as a view over a source table shows them. -/

inductive Lookalike : Json → Prop where
  | lone (tag : String) : Lookalike (.object [("type", .string tag)])
  | pair (tag : String) (plain : Json) : Lookalike (.object [("type", .string tag), ("value", plain)])

theorem isTaggedIff {j : Json} (ordered : j.Ordered = true) : isTagged j = true ↔ Lookalike j := by
  constructor
  · intro tagged
    cases j with
    | object members =>
      rw [Json.Ordered, Bool.and_eq_true] at ordered
      obtain ⟨ascending, -⟩ := ordered
      simp only [isTagged, Bool.and_eq_true, List.all_eq_true, decide_eq_true_eq] at tagged
      obtain ⟨typed, keys⟩ := tagged
      -- No key but these two may be there, and they stand in their order.
      have behind : ¬ "value" < "type" := by decide
      rcases members with _ | ⟨⟨k, x⟩, _ | ⟨⟨l, y⟩, more⟩⟩
      · cases typed
      · rcases keys _ List.mem_cons_self with rfl | rfl
        · cases x <;> first | exact .lone _ | cases typed
        · cases typed
      · have first := Json.ascendingHead ascending _ List.mem_cons_self
        have later := Json.ascendingHead (Json.ascendingTail ascending)
        rcases keys _ List.mem_cons_self with rfl | rfl <;>
          rcases keys _ (List.mem_cons_of_mem _ List.mem_cons_self) with rfl | rfl
        · exact absurd first (String.lt_irrefl _)
        · obtain rfl : more = [] := List.eq_nil_iff_forall_not_mem.mpr fun n mem => by
            have beyond := later n mem
            rcases keys n (by simp [mem]) with same | same <;> rw [same] at beyond
            · exact behind beyond
            · exact String.lt_irrefl _ beyond
          cases x <;> first | exact .pair _ _ | cases typed
        · exact absurd first behind
        · exact absurd first (String.lt_irrefl _)
    | _ => cases tagged
  · rintro (⟨tag⟩ | ⟨tag, plain⟩) <;> simp [isTagged]

inductive BareRead : Option Json → Except Error FeatureValue → Prop where
  | nothing : BareRead none (.ok .null)
  | inferred {j : Json} (ordinary : ¬ Lookalike j) : BareRead (some j) (.ok (ofPlain j))
  -- An object is taken for a value of the kind that it names.
  | mistaken {j : Json} (lookalike : Lookalike j) {v : FeatureValue}
      (named : j.find? "type" = some (.string v.kind.name)) (other : v ≠ ofPlain j) :
      BareRead (some j) (.ok v)
  | refused {j : Json} (lookalike : Lookalike j) (fault : Fault) :
      BareRead (some j) (.error (.deserialization "postgres value" fault))

theorem namedKind {tag : String} {kind : Kind} (found : Decoder.named Kind.all tag = .ok kind) :
    tag = kind.name := by
  have table : ∀ entry ∈ Kind.all, entry.1 = entry.2.name := by decide
  rw [Decoder.named] at found
  split at found
  · rename_i there
    cases found
    obtain ⟨before, after, split, -⟩ := List.lookup_eq_some_iff.mp there
    exact table (tag, kind) (by simp [split])
  · cases found

theorem contentOther {kind : Kind} {tag : String} {plain : Json} (ordered : plain.Ordered = true)
    {v : FeatureValue} (read : content kind (plain.height + 1) (Tree.ofJson plain) = .ok v) :
    v ≠ ofPlain (.object [("type", .string tag), ("value", plain)]) := by
  rintro rfl
  obtain rfl : Kind.json = kind := FeatureValue.contentKind read
  have whole : content .json (plain.height + 1) (Tree.ofJson plain) = .ok (.json plain) :=
    congrArg (Except.map FeatureValue.json) (Json.jsonRead plain ordered _ (Nat.lt_succ_self _))
  have same := FeatureValue.json.inj (Except.ok.inj (whole.symm.trans read))
  have heights := congrArg Json.height same
  rw [pairHeight] at heights
  omega

theorem lookalikeRead {j : Json} (ordered : j.Ordered = true) (lookalike : Lookalike j) :
    BareRead (some j) (valueOfJson (some j)) := by
  have refused {fault : Fault} := BareRead.refused lookalike fault
  rw [taggedReads ((isTaggedIff ordered).mpr lookalike)]
  cases lookalike with
  | lone tag =>
    rw [decodedLone]
    rcases named : Decoder.named Kind.all tag with fault | kind
    · exact refused
    · obtain rfl := namedKind named
      cases kind with
      | null => exact .mistaken (.lone _) rfl (by simp [ofPlain])
      | _ => exact refused
  | pair tag plain =>
    rw [decodedPair]
    rcases named : Decoder.named Kind.all tag with fault | kind
    · exact refused
    · obtain rfl := namedKind named
      rcases read : content kind (plain.height + 1) (Tree.ofJson plain) with fault | v
      · simp only [Except.bind, read]
        exact refused
      · simp only [Except.bind, read]
        refine .mistaken (.pair _ _) ?_ (contentOther ?_ read)
        · rw [FeatureValue.contentKind read]
          rfl
        · simp only [Json.Ordered, Json.OrderedMembers, Bool.and_eq_true] at ordered
          exact ordered.2.2.1

structure Bare where
  json : Option Json
  ordered : ∀ j ∈ json, j.Ordered = true

namespace Bare

def read (b : Bare) : Except Error FeatureValue := valueOfJson b.json

def inferred (b : Bare) : FeatureValue := (b.json.map ofPlain).getD .null

def Ordinary (b : Bare) : Prop := ∀ j ∈ b.json, ¬ Lookalike j

theorem readAs (b : Bare) : BareRead b.json b.read := by
  obtain ⟨_ | j, ordered⟩ := b
  · exact .nothing
  · have sorted : j.Ordered = true := ordered j rfl
    by_cases lookalike : Lookalike j
    · exact lookalikeRead sorted lookalike
    · rw [read, valueOfJson, if_neg (mt (isTaggedIff sorted).mp lookalike)]
      exact .inferred lookalike

theorem readIff (b : Bare) : b.read = .ok b.inferred ↔ b.Ordinary := by
  obtain ⟨o, ordered⟩ := b
  have how := readAs ⟨o, ordered⟩
  simp only [inferred, Ordinary]
  generalize read ⟨o, ordered⟩ = result at how
  cases how with
  | nothing => simp
  | inferred ordinary => simpa using ordinary
  | mistaken lookalike _ other => simpa [other] using lookalike
  | refused lookalike _ => simpa using lookalike

end Bare

structure ViewRow where
  entity : String
  value : Bare
  micros : Int
  ts : Timestamp
  timed : Timestamp.ofMicros? micros = some ts

namespace ViewRow

def cells (r : ViewRow) : List Cell := [.text (some r.entity), .json r.value.json, .time (some r.micros)]

def record (r : ViewRow) (v : FeatureValue) : ResourceRecord := ⟨r.entity, v, r.ts⟩

def shown (r : ViewRow) : Except Error ResourceRecord := r.value.read.map r.record

def inferred (r : ViewRow) : ResourceRecord := r.record r.value.inferred

theorem read (r : ViewRow) : recordOf r.cells = r.shown := by
  simp only [shown, Bare.read, recordOf, cells, readCell, cellError, Cell.asText, Cell.asOptionalJson,
    Cell.asTime, r.timed, List.getElem?_cons_zero, List.getElem?_cons_succ, bind, Except.bind]
  cases valueOfJson r.value.json <;> rfl

theorem shownIff (r : ViewRow) : r.shown = .ok r.inferred ↔ r.value.Ordinary := by
  rw [← r.value.readIff, shown, inferred]
  rcases r.value.read with e | v
  · simp [Except.map]
  · simp [Except.map, record]

end ViewRow

structure JoinedRow where
  features : List Bare
  label : Bare

namespace JoinedRow

def cells (r : JoinedRow) : List Cell := r.features.map (.json ·.json) ++ [.json r.label.json]

def shown (r : JoinedRow) : Except Error TrainingSetRow := do
  let features ← r.features.mapM Bare.read
  let label ← r.label.read
  .ok ⟨features, label⟩

def inferred (r : JoinedRow) : TrainingSetRow := ⟨r.features.map Bare.inferred, r.label.inferred⟩

def Ordinary (r : JoinedRow) : Prop := (∀ b ∈ r.features, b.Ordinary) ∧ r.label.Ordinary

theorem cellRead {cells : List Cell} {column : Nat} {b : Bare}
    (there : cells[column]? = some (.json b.json)) : trainingCell cells column = b.read := by
  simp only [trainingCell, readCell, there, Cell.asOptionalJson, cellError, bind, Except.bind, Bare.read]

theorem read (r : JoinedRow) : trainingRowOf r.cells = r.shown := by
  have last : r.cells.length - 1 = r.features.length := by simp [cells]
  have label : trainingCell r.cells r.features.length = r.label.read := cellRead (by simp [cells])
  have features : (List.range r.features.length).mapM (trainingCell r.cells) = r.features.mapM Bare.read :=
    mapMByPlace fun i b there => by
      obtain ⟨inside, rfl⟩ := List.getElem?_eq_some_iff.mp there
      refine cellRead ?_
      rw [cells, List.getElem?_append_left (by simpa using inside)]
      simp [inside]
  simp only [shown, trainingRowOf, last, label, features]

theorem shownIff (r : JoinedRow) : r.shown = .ok r.inferred ↔ r.Ordinary := by
  have features : r.features.mapM Bare.read = .ok (r.features.map Bare.inferred) ↔
      ∀ b ∈ r.features, b.Ordinary := by
    rw [mapMOkIff fun b _ v => Iff.rfl, List.forall₂_map_right_iff, List.forall₂_same]
    exact forall₂_congr fun b _ => b.readIff
  rw [Ordinary, ← features, ← r.label.readIff]
  constructor
  · intro done
    obtain ⟨read, first, next⟩ := Task.boundOk done
    obtain ⟨label, second, same⟩ := Task.boundOk next
    cases same
    exact ⟨first, second⟩
  · rintro ⟨first, second⟩
    rw [shown, first, second]
    rfl

end JoinedRow

theorem viewRowsRead {mat : MaterializationId} {table : String} {first last : Int64} {opened : Reply}
    (positive : 0 ≤ first) (sorted : first ≤ last) (connected : met .connection opened = true)
    (rows : List ViewRow) (rest : List Reply) :
    heard ((materializationHandle mat table).segment first last)
        (opened :: .rows (rows.map ViewRow.cells) :: rest) =
      (some (.ok (rows.map ViewRow.shown), rest),
        [.connection, .query (recordSegment table) [.bigint first, .bigint (last - first)]]) := by
  have valid : ¬ (first < 0 || last < first) = true := by
    simp [Int64.not_lt.mpr positive, Int64.not_lt.mpr sorted]
  have read : (rows.map ViewRow.cells).map recordOf = rows.map ViewRow.shown := by
    rw [List.map_map]
    exact List.map_congr_left fun r _ => r.read
  simp only [materializationHandle, segment, if_neg valid, ← read]
  exact heardConnected connected _ _

theorem joinedRowsRead {id : ResourceId} {opened : Reply} (type : id.type = .trainingSet)
    (connected : met .connection opened = true) (rows : List JoinedRow) (rest : List Reply) :
    heard (store.getTrainingSet id) (opened :: .rows (rows.map JoinedRow.cells) :: rest) =
      (some (.ok (rows.map JoinedRow.shown), rest),
        [.connection, .query (selectAll (tableName id)) []]) := by
  have allowed : id.checkType [.trainingSet] = .ok () := by simp [ResourceId.checkType, type]
  have read : (rows.map JoinedRow.cells).map trainingRowOf = rows.map JoinedRow.shown := by
    rw [List.map_map]
    exact List.map_congr_left fun r _ => r.read
  simp only [store, getTrainingSet, allowed, ← read]
  exact heardConnected connected _ _

/-- Pages of views and training sets of bare values are read row by row. A row is shown as the values that
are inferred from its cells if and only if none of them is an object of the shape in which the store writes
values; such an object is never read as what it is, but as a value of the kind that it names, or with an
error. -/
theorem inferredUnlessLookalike (page : List ViewRow) (joined : List JoinedRow) (opened : Reply)
    (connected : met .connection opened = true) (rest : List Reply) :
    (∀ mat table first last, 0 ≤ first → first ≤ last →
      heard ((materializationHandle mat table).segment first last)
          (opened :: .rows (page.map ViewRow.cells) :: rest) =
        (some (.ok (page.map ViewRow.shown), rest),
          [.connection, .query (recordSegment table) [.bigint first, .bigint (last - first)]])) ∧
    (∀ id, id.type = .trainingSet →
      heard (store.getTrainingSet id) (opened :: .rows (joined.map JoinedRow.cells) :: rest) =
        (some (.ok (joined.map JoinedRow.shown), rest),
          [.connection, .query (selectAll (tableName id)) []])) ∧
    (∀ r ∈ page, BareRead r.value.json r.value.read ∧ (r.shown = .ok r.inferred ↔ r.value.Ordinary)) ∧
    ∀ r ∈ joined, (∀ b ∈ r.label :: r.features, BareRead b.json b.read) ∧
      (r.shown = .ok r.inferred ↔ r.Ordinary) :=
  ⟨fun _ _ _ _ positive sorted => viewRowsRead positive sorted connected page rest,
    fun _ type => joinedRowsRead type connected joined rest,
    fun r _ => ⟨r.value.readAs, r.shownIff⟩,
    fun r _ => ⟨fun b _ => b.readAs, r.shownIff⟩⟩

theorem inferredUnlessLookalikePages :
    let size : Json := .object [("type", .ofInt64 5), ("value", .string "tall")]
    let id : ResourceId := ⟨"fraud", "v1", .trainingSet⟩
    size.Ordered = true ∧ ¬ Lookalike size ∧
      heard ((materializationHandle ⟨"m"⟩ "builds").segment 0 10)
          [.done, .rows [[.text (some "alice"), .json (some size), .time (some Timestamp.epoch.toMicros)]]] =
        (some (.ok [.ok ⟨"alice", .json size, Timestamp.epoch⟩], []),
          [.connection, .query (recordSegment "builds") [.bigint 0, .bigint 10]]) ∧
      heard (store.getTrainingSet id) [.done, .rows [[.json (some size), .json none]]] =
        (some (.ok [.ok ⟨[.json size], .null⟩], []),
          [.connection, .query (selectAll (tableName id)) []]) := by
  intro size id
  have ordered : size.Ordered = true := by decide
  have ordinary : ¬ Lookalike size := fun lookalike =>
    absurd ((isTaggedIff ordered).mpr lookalike) (by decide)
  let cell : Bare := ⟨some size, by rintro _ ⟨⟩; exact ordered⟩
  let nothing : Bare := ⟨none, by rintro _ ⟨⟩⟩
  let row : ViewRow := ⟨"alice", cell, Timestamp.epoch.toMicros, Timestamp.epoch, rfl⟩
  let sample : JoinedRow := ⟨[cell], nothing⟩
  have plain : cell.Ordinary := by rintro _ ⟨⟩; exact ordinary
  obtain ⟨viewed, made, rows, samples⟩ := inferredUnlessLookalike [row] [sample] .done rfl []
  have shown : row.shown = .ok row.inferred := (rows row List.mem_cons_self).2.mpr plain
  have all : sample.Ordinary := ⟨by simpa [sample] using plain, by rintro _ ⟨⟩⟩
  have joined : sample.shown = .ok sample.inferred := (samples sample List.mem_cons_self).2.mpr all
  refine ⟨ordered, ordinary, ?_, ?_⟩
  · exact (viewed ⟨"m"⟩ "builds" 0 10 (by decide) (by decide)).trans (by rw [List.map_singleton, shown]; rfl)
  · exact (made id rfl).trans (by rw [List.map_singleton, joined]; rfl)

theorem lookalikesMisread :
    let circle : Json := .object [("type", .string "circle")]
    let five : Json := .object [("type", .string "Int"), ("value", .ofInt64 5)]
    ofPlain circle = .json circle ∧ ofPlain five = .json five ∧
      heard ((materializationHandle ⟨"m"⟩ "builds").segment 0 10)
          [.done, .rows [[.text (some "alice"), .json (some circle), .time (some Timestamp.epoch.toMicros)],
            [.text (some "bob"), .json (some five), .time (some Timestamp.epoch.toMicros)]]] =
        (some (.ok [.error (.deserialization "postgres value"
            (.unknownVariant "circle" (Kind.all.map Prod.fst))),
          .ok ⟨"bob", .int 5, Timestamp.epoch⟩], []),
          [.connection, .query (recordSegment "builds") [.bigint 0, .bigint 10]]) :=
  ⟨rfl, rfl, rfl⟩

end FeatureStore.Postgres
