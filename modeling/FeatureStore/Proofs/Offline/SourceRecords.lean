import FeatureStore.Proofs.Offline.Session
import Mathlib.Data.List.Forall2

/-!
Features and labels that show columns of a table of rows. Rows are as wide as their table and registered
columns exist, whatever was called before, so that reading such a feature gives one record for every row
that was written to its source, and fails only for what a row holds.
-/
namespace FeatureStore

section Lists
variable {α β ε : Type} {f : α → Except ε β} {items : List α} {R : α → β → Prop} {S : α → ε → Prop}

theorem mapMOkIff (oks : ∀ a ∈ items, ∀ b, f a = .ok b ↔ R a b) {results : List β} :
    items.mapM f = .ok results ↔ List.Forall₂ R items results := by
  induction items generalizing results with
  | nil =>
    rw [List.mapM_nil, List.forall₂_nil_left_iff]
    exact ⟨fun done => (Except.ok.inj done).symm, fun done => congrArg Except.ok done.symm⟩
  | cons a rest ih =>
    have here := oks a List.mem_cons_self
    have others {more : List β} : rest.mapM f = .ok more ↔ List.Forall₂ R rest more :=
      ih fun x mem => oks x (List.mem_cons_of_mem a mem)
    rw [List.mapM_cons, List.forall₂_cons_left_iff]
    constructor
    · intro done
      obtain ⟨b, first, next⟩ := Task.boundOk done
      obtain ⟨more, made, last⟩ := Task.boundOk next
      cases last
      exact ⟨b, more, (here b).mp first, others.mp made, rfl⟩
    · rintro ⟨b, more, first, made, rfl⟩
      rw [(here b).mpr first, others.mpr made]
      rfl

theorem mapMByPlace {atPlace : Nat → Except ε β}
    (same : ∀ (i : Nat) (a : α), items[i]? = some a → atPlace i = f a) :
    (List.range items.length).mapM atPlace = items.mapM f := by
  induction items generalizing atPlace with
  | nil => rfl
  | cons a rest ih =>
    have others := @ih (atPlace ∘ Nat.succ) fun i b there => same (i + 1) b (by simpa using there)
    rw [List.length_cons, List.range_succ_eq_map, List.mapM_cons, List.mapM_cons, List.mapM_map, others,
      same 0 a rfl]

theorem mapMErrorIff (oks : ∀ a ∈ items, ∀ b, f a = .ok b ↔ R a b)
    (errors : ∀ a ∈ items, ∀ e, f a = .error e ↔ S a e) {e : ε} :
    items.mapM f = .error e ↔
      ∃ before a more, items = before ++ a :: more ∧ (∀ x ∈ before, ∃ y, R x y) ∧ S a e := by
  constructor
  · intro failed
    induction items with
    | nil => cases failed
    | cons a rest ih =>
      rw [List.mapM_cons] at failed
      cases first : f a with
      | error e' =>
        rw [first] at failed
        cases failed
        exact ⟨[], a, rest, rfl, by simp, (errors a List.mem_cons_self _).mp first⟩
      | ok b =>
        rw [first] at failed
        cases others : rest.mapM f with
        | ok more =>
          rw [others] at failed
          cases failed
        | error e' =>
          rw [others] at failed
          cases failed
          obtain ⟨before, x, more, rfl, read, last⟩ :=
            ih (fun x mem => oks x (List.mem_cons_of_mem a mem))
              (fun x mem => errors x (List.mem_cons_of_mem a mem)) others
          refine ⟨a :: before, x, more, rfl, fun y mem => ?_, last⟩
          rcases List.mem_cons.mp mem with rfl | inside
          · exact ⟨b, (oks y List.mem_cons_self b).mp first⟩
          · exact read y inside
  · rintro ⟨before, a, more, rfl, read, last⟩
    induction before with
    | nil =>
      rw [List.nil_append, List.mapM_cons, (errors a List.mem_cons_self e).mpr last]
      rfl
    | cons x before ih =>
      obtain ⟨y, first⟩ := read x List.mem_cons_self
      have others := ih (fun z mem => oks z (List.mem_cons_of_mem x mem))
        (fun z mem => errors z (List.mem_cons_of_mem x mem))
        fun z mem => read z (List.mem_cons_of_mem x mem)
      rw [List.cons_append, List.mapM_cons, (oks x List.mem_cons_self y).mpr first, others]
      rfl

end Lists

namespace Memory

inductive Names : FeatureValue → String → Prop
  | text (s : String) : Names (.string s) s
  | number (n : Int64) : Names (.int n) (FeatureValue.intText n.toInt)

inductive Dates : FeatureValue → Timestamp → Prop
  | null : Dates .null .epoch
  | text {s : String} {ts : Timestamp} (told : Timestamp.readFixed s = .ok ts) : Dates (.string s) ts
  | seconds {n : Int64} {ts : Timestamp} (same : ts.seconds = n.toInt) (whole : ts.nanos = 0) :
      Dates (.int n) ts

theorem entityOfIff {v : FeatureValue} {s : String} : entityOf (some v) = .ok s ↔ Names v s := by
  constructor
  · intro named
    cases v <;> cases named <;> constructor
  · rintro (_ | _) <;> rfl

theorem ofPartsIff {seconds : Int} {ts : Timestamp} :
    Timestamp.ofParts? seconds 0 = some ts ↔ ts.seconds = seconds ∧ ts.nanos = 0 := by
  rw [Timestamp.ofParts?]
  constructor
  · intro made
    split at made <;> cases made
    exact ⟨rfl, rfl⟩
  · rintro ⟨rfl, whole⟩
    obtain ⟨seconds, nanos, least, most, nanos_lt, leap_last⟩ := ts
    obtain rfl : nanos = 0 := whole
    rw [dif_pos ⟨⟨least, most⟩, nanos_lt, leap_last⟩]

theorem timestampOfIff {v : FeatureValue} {ts : Timestamp} : timestampOf v = .ok ts ↔ Dates v ts := by
  constructor
  · intro dated
    cases v with
    | null =>
      cases dated
      exact .null
    | string s =>
      rw [timestampOf] at dated
      split at dated <;> cases dated
      exact .text ‹_›
    | int n =>
      rw [timestampOf] at dated
      split at dated <;> cases dated
      rename_i made
      obtain ⟨same, whole⟩ := ofPartsIff.mp made
      exact .seconds same whole
    | _ => cases dated
  · rintro (_ | told | ⟨same, whole⟩)
    · rfl
    · rw [timestampOf, told]
    · rw [timestampOf, ofPartsIff.mpr ⟨same, whole⟩]

def Cell (s : TableSchema) (row : Row) (column : String) (v : FeatureValue) : Prop :=
  ∃ i, s.indexOf? column = some i ∧ row[i]? = some v

structure StandsFor (s : TableSchema) (schema : ResourceSchema) (row : Row) (r : ResourceRecord) :
    Prop where
  entity : ∃ v, Cell s row schema.entity v ∧ Names v r.entity
  value : Cell s row schema.value r.value
  ts : if schema.ts = "" then r.ts = .epoch else ∃ v, Cell s row schema.ts v ∧ Dates v r.ts

inductive Unreadable (s : TableSchema) (schema : ResourceSchema) (row : Row) : Error → Prop
  | entity {v : FeatureValue} {e : Error} (there : Cell s row schema.entity v)
      (nameless : ∀ name, ¬ Names v name) (refused : entityOf (some v) = .error e) :
      Unreadable s schema row e
  | ts {named v : FeatureValue} {name : String} {e : Error} (entity : Cell s row schema.entity named)
      (names : Names named name) (timed : schema.ts ≠ "") (there : Cell s row schema.ts v)
      (dateless : ∀ ts, ¬ Dates v ts) (refused : timestampOf v = .error e) : Unreadable s schema row e

structure Placed (s : TableSchema) (schema : ResourceSchema) (entity value : Nat) (ts : Option Nat) :
    Prop where
  entity : s.indexOf? schema.entity = some entity
  value : s.indexOf? schema.value = some value
  ts : if schema.ts = "" then ts = none else ∃ i, ts = some i ∧ s.indexOf? schema.ts = some i

theorem placed {s : TableSchema} {schema : ResourceSchema}
    (columns : ∀ c ∈ schema.columns, (s.indexOf? c).isSome) :
    ∃ entity value ts, Placed s schema entity value ts := by
  obtain ⟨entity, atEntity⟩ := Option.isSome_iff_exists.mp
    (columns schema.entity (by simp [ResourceSchema.columns]))
  obtain ⟨value, atValue⟩ := Option.isSome_iff_exists.mp
    (columns schema.value (by simp [ResourceSchema.columns]))
  by_cases untimed : schema.ts = ""
  · exact ⟨entity, value, none, atEntity, atValue, by rw [if_pos untimed]⟩
  · obtain ⟨ts, atTs⟩ := Option.isSome_iff_exists.mp
      (columns schema.ts (by simp [ResourceSchema.columns, untimed]))
    exact ⟨entity, value, some ts, atEntity, atValue, by rw [if_neg untimed]; exact ⟨ts, rfl, atTs⟩⟩

theorem recordsOfPlaced {t : MemoryTable} {schema : ResourceSchema} {entity value : Nat}
    {ts : Option Nat} (placed : Placed t.schema schema entity value ts) :
    recordsOf t schema = t.rows.mapM (recordOf entity value ts) := by
  have timed := placed.ts
  simp only [recordsOf, columnIndex, placed.entity, placed.value, bind, Except.bind]
  by_cases untimed : schema.ts = ""
  · rw [if_pos untimed] at timed
    simp [untimed, timed]
  · rw [if_neg untimed] at timed
    obtain ⟨i, rfl, atTs⟩ := timed
    simp [untimed, atTs, Except.map]

section Rows
variable {s : TableSchema} {schema : ResourceSchema} {row : Row}

theorem cellAt {column : String} {i : Nat} (found : s.indexOf? column = some i) (v : FeatureValue) :
    Cell s row column v ↔ row[i]? = some v := by
  constructor
  · rintro ⟨j, same, there⟩
    obtain rfl := Option.some.inj (found.symm.trans same)
    exact there
  · exact fun there => ⟨i, found, there⟩

theorem cellExists (whole : row.length = s.columns.length) {column : String} {i : Nat}
    (found : s.indexOf? column = some i) : ∃ v, row[i]? = some v := by
  have inside : i < s.columns.length := (List.findIdx?_eq_some_iff_getElem.mp found).1
  exact ⟨row.get ⟨i, whole ▸ inside⟩, List.getElem?_eq_getElem _⟩

def timeAt (ts : Option Nat) (row : Row) : Except Error Timestamp :=
  match ts with
  | some i => timestampOf (row[i]?.getD .null)
  | none => .ok .epoch

theorem recordOfTime (entity value : Nat) (ts : Option Nat) (row : Row) :
    recordOf entity value ts row =
      (entityOf row[entity]? >>= fun name => timeAt ts row >>= fun time =>
        .ok ⟨name, row[value]?.getD .null, time⟩) := by
  cases ts <;> rfl

variable {entity value : Nat} {ts : Option Nat}

theorem timeAtOkIff (placed : Placed s schema entity value ts) (whole : row.length = s.columns.length)
    {time : Timestamp} :
    timeAt ts row = .ok time ↔
      if schema.ts = "" then time = .epoch else ∃ v, Cell s row schema.ts v ∧ Dates v time := by
  have timed := placed.ts
  split at timed
  · rw [timed, timeAt, if_pos ‹_›, Except.ok.injEq, eq_comm]
  · obtain ⟨i, rfl, found⟩ := timed
    obtain ⟨v, there⟩ := cellExists whole found
    rw [timeAt, there, Option.getD_some, timestampOfIff, if_neg ‹_›]
    constructor
    · exact fun dates => ⟨v, (cellAt found v).mpr there, dates⟩
    · rintro ⟨w, cell, dates⟩
      obtain rfl := Option.some.inj (there.symm.trans ((cellAt found w).mp cell))
      exact dates

theorem timeAtErrorIff (placed : Placed s schema entity value ts)
    (whole : row.length = s.columns.length) {e : Error} :
    timeAt ts row = .error e ↔
      schema.ts ≠ "" ∧ ∃ v, Cell s row schema.ts v ∧ (∀ time, ¬ Dates v time) ∧
        timestampOf v = .error e := by
  have timed := placed.ts
  split at timed
  · rename_i untimed
    simp [timed, timeAt, untimed]
  · rename_i isTimed
    obtain ⟨i, rfl, found⟩ := timed
    obtain ⟨v, there⟩ := cellExists whole found
    rw [timeAt, there, Option.getD_some]
    constructor
    · intro refused
      refine ⟨isTimed, v, (cellAt found v).mpr there, fun time dates => ?_, refused⟩
      rw [timestampOfIff.mpr dates] at refused
      cases refused
    · rintro ⟨-, w, cell, -, refused⟩
      obtain rfl := Option.some.inj (there.symm.trans ((cellAt found w).mp cell))
      exact refused

theorem recordOfOkIff (placed : Placed s schema entity value ts) (whole : row.length = s.columns.length)
    {r : ResourceRecord} :
    recordOf entity value ts row = .ok r ↔ StandsFor s schema row r := by
  obtain ⟨named, atEntity⟩ := cellExists whole placed.entity
  obtain ⟨v, atValue⟩ := cellExists whole placed.value
  rw [recordOfTime, atEntity, atValue, Option.getD_some]
  constructor
  · intro read
    obtain ⟨name, names, next⟩ := Task.boundOk read
    obtain ⟨time, dated, last⟩ := Task.boundOk next
    cases last
    exact ⟨⟨named, (cellAt placed.entity named).mpr atEntity, entityOfIff.mp names⟩,
      (cellAt placed.value v).mpr atValue, (timeAtOkIff placed whole).mp dated⟩
  · rintro ⟨⟨w, cell, names⟩, valued, dated⟩
    obtain rfl := Option.some.inj (atEntity.symm.trans ((cellAt placed.entity w).mp cell))
    obtain rfl := Option.some.inj (atValue.symm.trans ((cellAt placed.value r.value).mp valued))
    rw [entityOfIff.mpr names, (timeAtOkIff placed whole).mpr dated]
    rfl

theorem recordOfErrorIff (placed : Placed s schema entity value ts)
    (whole : row.length = s.columns.length) {e : Error} :
    recordOf entity value ts row = .error e ↔ Unreadable s schema row e := by
  obtain ⟨named, atEntity⟩ := cellExists whole placed.entity
  have cell := (cellAt placed.entity named).mpr atEntity
  rw [recordOfTime, atEntity]
  constructor
  · intro failed
    cases names : entityOf (some named) with
    | error e' =>
      rw [names] at failed
      cases failed
      refine .entity cell (fun name named => ?_) names
      rw [entityOfIff.mpr named] at names
      cases names
    | ok name =>
      rw [names] at failed
      cases dated : timeAt ts row with
      | ok time =>
        rw [dated] at failed
        cases failed
      | error e' =>
        rw [dated] at failed
        cases failed
        obtain ⟨timed, v, there, dateless, refused⟩ := (timeAtErrorIff placed whole).mp dated
        exact .ts cell (entityOfIff.mp names) timed there dateless refused
  · rintro (@⟨w, _, there, -, refused⟩ | @⟨w, v, name, _, entity, names, timed, there, dateless, refused⟩)
    · obtain rfl := Option.some.inj (atEntity.symm.trans ((cellAt placed.entity w).mp there))
      rw [refused]
      rfl
    · obtain rfl := Option.some.inj (atEntity.symm.trans ((cellAt placed.entity w).mp entity))
      rw [entityOfIff.mpr names, (timeAtErrorIff placed whole).mpr ⟨timed, v, there, dateless, refused⟩]
      rfl

end Rows

structure Sound (m : Memory) : Prop where
  rows {place : Nat} {t : MemoryTable} : m.tables[place]? = some t →
    ∀ row ∈ t.rows, row.length = t.schema.columns.length
  columns {id : ResourceId} {schema : ResourceSchema} {place : Nat} :
    m.resources.find? id = some (.columns schema place) →
    ∃ t, m.tables[place]? = some t ∧ ∀ c ∈ schema.columns, (t.schema.indexOf? c).isSome

namespace Sound
variable {m : Memory}

theorem empty : Sound .empty := ⟨fun found => by simp [Memory.empty] at found, fun found => by cases found⟩

theorem same {after : Memory} (sound : m.Sound) (tables : after.tables = m.tables)
    (resources : after.resources = m.resources) : after.Sound := by
  refine ⟨fun found => sound.rows (tables ▸ found), fun found => ?_⟩
  rw [tables]
  exact sound.columns (resources ▸ found)

theorem putResource (sound : m.Sound) (id : ResourceId) {source : RecordSource}
    (columns : ∀ schema place, source = .columns schema place →
      ∃ t, m.tables[place]? = some t ∧ ∀ c ∈ schema.columns, (t.schema.indexOf? c).isSome) :
    (m.putResource id source).Sound := by
  refine ⟨sound.rows, fun {other schema place} found => ?_⟩
  simp only [Memory.putResource, Bindings.findInsert] at found
  split at found
  · exact columns schema place (Option.some.inj found)
  · exact sound.columns found

theorem addTable (sound : m.Sound) (id : ResourceId) {t : MemoryTable} (unfilled : t.rows = []) :
    (m.addTable id t).Sound := by
  refine ⟨fun {place u} found => ?_, fun {other schema place} found => ?_⟩
  · simp only [Memory.addTable, List.getElem?_append] at found
    split at found
    · exact sound.rows found
    · obtain rfl : t = u := by
        cases rest : place - m.tables.length <;> simp_all
      simp [unfilled]
  · obtain ⟨u, there, columns⟩ := sound.columns found
    have inside := (List.getElem?_eq_some_iff.mp there).1
    exact ⟨u, (List.getElem?_append_left inside).trans there, columns⟩

theorem addRow (sound : m.Sound) {place : Nat} {t : MemoryTable} {row : Row}
    (there : m.tables[place]? = some t) (whole : row.length = t.schema.columns.length) :
    (m.addRow place row).Sound := by
  refine ⟨fun {other u} found => ?_, fun {id schema other} found => ?_⟩
  · simp only [Memory.addRow, List.getElem?_modify] at found
    obtain ⟨old, held, rfl⟩ := Option.map_eq_some_iff.mp found
    split
    · rename_i here
      subst here
      obtain rfl := Option.some.inj (there.symm.trans held)
      intro last mem
      rcases List.mem_append.mp mem with before | new
      · exact sound.rows held last before
      · rw [List.mem_singleton.mp new]
        exact whole
    · exact sound.rows held
  · obtain ⟨u, held, columns⟩ := sound.columns found
    refine ⟨_, by rw [Memory.addRow, List.getElem?_modify, held]; rfl, ?_⟩
    split <;> exact columns

end Sound

theorem checkColumnsOk {t : MemoryTable} {source : String} {columns : List String}
    (passed : checkColumns t source columns = .ok ()) : ∀ c ∈ columns, (t.schema.indexOf? c).isSome := by
  induction columns with
  | nil => simp
  | cons c rest ih =>
    rw [checkColumns] at passed
    split at passed
    · cases passed
    · rename_i found
      intro d mem
      rcases List.mem_cons.mp mem with rfl | inside
      · simpa [Option.isSome_iff_ne_none] using found
      · exact ih passed d inside

end Memory

namespace OfflineSession
open Memory History
variable {x : OfflineSession}

theorem Change.sound (sound : x.memory.Sound) {call : OfflineCall}
    {handle : Option (OfflineHandle (StateM Memory))} {after : Memory}
    (change : x.Change call handle after) : after.Sound := by
  cases change with
  | createResource => exact sound.putResource _ fun _ _ same => by cases same
  | registerResource _ found columns =>
    refine sound.putResource _ ?_
    rintro schema place ⟨rfl⟩
    exact ⟨_, (primaryNamedFound found).1, checkColumnsOk columns⟩
  | write _ owned =>
    rw [addRecordOwned owned]
    exact sound.putResource _ fun _ _ same => by cases same
  | createPrimary => exact sound.addTable _ rfl
  | writeRow _ _ there whole => exact sound.addRow there whole
  | _ => exact sound.same rfl rfl

theorem stepSound (tracked : x.Tracked) (sound : x.memory.Sound) (call : OfflineCall) :
    (x.step call).memory.Sound := by
  have stepped : (x.step call).memory = ((call.perform Memory.store x.held).run x.memory).2 := rfl
  rw [stepped]
  rcases tracked.accounted call with performed | ⟨handle, after, performed, change⟩
  · rw [performed]
    exact sound
  · rw [performed]
    exact change.sound sound

theorem stepsSound (tracked : x.Tracked) (sound : x.memory.Sound) (calls : List OfflineCall) :
    (calls.foldl step x).memory.Sound := by
  induction calls generalizing x with
  | nil => exact sound
  | cons call rest ih => exact ih (tracked.step call) (stepSound tracked sound call)

theorem soundRun (calls : List OfflineCall) : (run calls).memory.Sound :=
  stepsSound trackedStart .empty calls

theorem Tracked.filled (tracked : x.Tracked) {place : Nat} {t : MemoryTable}
    (there : x.memory.tables[place]? = some t) : t.rows = rows place x.history := by
  rw [tracked.tables.tables, table?, Option.map_eq_some_iff] at there
  obtain ⟨_, -, rfl⟩ := there
  rfl

theorem Tracked.originColumns (tracked : x.Tracked) {id : ResourceId} {schema : ResourceSchema}
    {place : Nat} (registered : x.memory.resources.find? id = some (.columns schema place)) :
    origin? id x.history = some (.columns schema place) := by
  rw [tracked.resources.resources, Option.map_eq_some_iff] at registered
  obtain ⟨_ | _, origin, same⟩ := registered <;> cases same
  exact origin

/-- After any run of calls every row is as wide as its table, and a feature or label that shows columns
of a table finds them there. It reads one record for each row that was written to the table through any
handle, in order; it fails if and only if some row cannot be read, with the error of the first of them. -/
theorem sourcesReadRowForRow (calls : List OfflineCall) :
    let x := run calls
    (∀ (place : Nat) (t : MemoryTable), x.memory.tables[place]? = some t →
      ∀ row ∈ t.rows, row.length = t.schema.columns.length) ∧
    ∀ id schema place, x.memory.resources.find? id = some (.columns schema place) →
      origin? id x.history = some (.columns schema place) ∧
      ∃ t, x.memory.tables[place]? = some t ∧ t.rows = rows place x.history ∧
        (∀ c ∈ schema.columns, (t.schema.indexOf? c).isSome) ∧
        (∀ read, x.memory.records id = .ok read ↔
          List.Forall₂ (StandsFor t.schema schema) (rows place x.history) read) ∧
        ∀ e, x.memory.records id = .error e ↔
          ∃ before row more, rows place x.history = before ++ row :: more ∧
            (∀ earlier ∈ before, ∃ r, StandsFor t.schema schema earlier r) ∧
            Unreadable t.schema schema row e := by
  intro x
  have tracked : x.Tracked := trackedRun calls
  have sound : x.memory.Sound := soundRun calls
  refine ⟨fun place t => sound.rows, fun id schema place registered => ⟨?_, ?_⟩⟩
  · exact tracked.originColumns registered
  obtain ⟨t, there, columns⟩ := sound.columns registered
  have filled : t.rows = rows place x.history := tracked.filled there
  obtain ⟨entity, value, ts, placed⟩ := placed columns
  have read : x.memory.records id = t.rows.mapM (recordOf entity value ts) := by
    simp only [Memory.records, registered, there, recordsOfPlaced placed]
  have oks row (mem : row ∈ t.rows) (r : ResourceRecord) :=
    recordOfOkIff placed (sound.rows there row mem) (r := r)
  have errors row (mem : row ∈ t.rows) (e : Error) :=
    recordOfErrorIff placed (sound.rows there row mem) (e := e)
  rw [read, ← filled]
  exact ⟨t, there, rfl, columns, fun _ => mapMOkIff oks, fun _ => mapMErrorIff oks errors⟩

def purchases : TableSchema := ⟨[⟨"user", .string⟩, ⟨"amount", .int⟩, ⟨"at", .timestamp⟩]⟩

def purchaseCalls : List OfflineCall :=
  [.createPrimary ⟨"purchases", "v1", .primary⟩ purchases,
    .registerPrimary ⟨"orders", "v1", .primary⟩ "memory_primary__purchases__v1",
    .registerResource ⟨"amounts", "v1", .label⟩
      ⟨"user", "amount", "at", "memory_primary__purchases__v1"⟩,
    .writeRow 0 [.string "alice", .int 3, .int 60], .writeRow 1 [.int 7, .null, .null],
    .writeRow 1 [.string "bob"]]

theorem sourcesReadRowForRowPurchases :
    let schema : ResourceSchema := ⟨"user", "amount", "at", "memory_primary__purchases__v1"⟩
    let x := run purchaseCalls
    x.memory.resources.find? ⟨"amounts", "v1", .label⟩ = some (.columns schema 0) ∧
      x.memory.records ⟨"amounts", "v1", .label⟩ =
        .ok [⟨"alice", .int 3, ⟨60, 0, by decide, by decide, by decide, by decide⟩⟩,
          ⟨"7", .null, .epoch⟩] := by
  intro schema x
  have registered : x.memory.resources.find? ⟨"amounts", "v1", .label⟩ = some (.columns schema 0) := rfl
  obtain ⟨-, t, there, -, -, read, -⟩ :=
    (sourcesReadRowForRow purchaseCalls).2 ⟨"amounts", "v1", .label⟩ schema 0 registered
  cases there
  refine ⟨registered, (read _).mpr (.cons ?_ (.cons ?_ .nil))⟩
  · exact ⟨⟨_, ⟨0, rfl, rfl⟩, .text "alice"⟩, ⟨1, rfl, rfl⟩,
      ⟨.int 60, ⟨2, rfl, rfl⟩, .seconds rfl rfl⟩⟩
  · exact ⟨⟨_, ⟨0, rfl, rfl⟩, .number 7⟩, ⟨1, rfl, rfl⟩, ⟨.null, ⟨2, rfl, rfl⟩, .null⟩⟩

end OfflineSession
end FeatureStore
