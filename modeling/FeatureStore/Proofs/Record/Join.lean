import FeatureStore.TrainingSet
import FeatureStore.Proofs.Bindings
import FeatureStore.Proofs.Record.AsOf
import Mathlib.Data.List.Forall2

/-!
Joining labels with features. What a row takes from a list of records is said without a word on how it
is found: of the records that a label knows, those of its entity that are not later, the newest one.
Looking into an index of the records by entity and time gives the same rows.
-/
namespace FeatureStore
namespace ResourceRecord

def Known (l r : ResourceRecord) : Prop := r.entity = l.entity ∧ r.ts.le l.ts = true

instance (l r : ResourceRecord) : Decidable (Known l r) := inferInstanceAs (Decidable (_ ∧ _))

/- A list of records supplies a label with a value: that of the known record with the greatest time, the
last one of equal times, and null when no record is known. -/
inductive Supplies (records : List ResourceRecord) (l : ResourceRecord) : FeatureValue → Prop where
  | newest {before after : List ResourceRecord} {r : ResourceRecord}
      (place : records = before ++ r :: after) (known : Known l r)
      (earlier : ∀ x ∈ before, Known l x → x.ts.le r.ts = true)
      (later : ∀ x ∈ after, Known l x → x.ts.lt r.ts = true) : Supplies records l r.value
  | absent (unknown : ∀ r ∈ records, ¬ Known l r) : Supplies records l .null

section
variable {records : List ResourceRecord} {l s : ResourceRecord}

theorem newestPlaced {entity : String} {ts : Timestamp} :
    s.entity = entity ∧ Newest (upTo ts records) s ↔
      ∃ before after, records = before ++ s :: after ∧ s.entity = entity ∧ s.ts.le ts = true ∧
        (∀ x ∈ before, x.entity = entity ∧ x.ts.le ts = true → x.ts.le s.ts = true) ∧
        ∀ x ∈ after, x.entity = entity ∧ x.ts.le ts = true → x.ts.lt s.ts = true := by
  constructor
  · rintro ⟨rfl, front, back, split, earlier, later⟩
    obtain ⟨before, rest, rfl, inFront, atRest⟩ := List.filter_eq_append_iff.mp split
    obtain ⟨passed, after, rfl, out, known, inBack⟩ := List.filter_eq_cons_iff.mp atRest
    refine ⟨before ++ passed, after, by simp, rfl, known, fun x mem here => ?_, fun x mem here => ?_⟩
    · rcases List.mem_append.mp mem with first | between
      · exact earlier x (inFront ▸ List.mem_filter.mpr ⟨first, here.2⟩) here.1
      · exact absurd here.2 (out x between)
    · exact later x (inBack ▸ List.mem_filter.mpr ⟨mem, here.2⟩) here.1
  · rintro ⟨before, after, rfl, rfl, known, earlier, later⟩
    refine ⟨rfl, upTo ts before, upTo ts after, by simp [upTo, known], fun x mem same => ?_,
      fun x mem same => ?_⟩
    · obtain ⟨there, seen⟩ := List.mem_filter.mp mem
      exact earlier x there ⟨same, seen⟩
    · obtain ⟨there, seen⟩ := List.mem_filter.mp mem
      exact later x there ⟨same, seen⟩

theorem asOfAbsent : recordAsOf records l.entity l.ts = none ↔ ∀ r ∈ records, ¬ Known l r := by
  constructor
  · rintro missing r mem ⟨same, seen⟩
    have mem : r ∈ upTo l.ts records := List.mem_filter.mpr ⟨mem, seen⟩
    obtain ⟨t, newest, entity⟩ := newestExists mem
    have found := asOfNewest.mpr ⟨entity.trans same, newest⟩
    rw [missing] at found
    cases found
  · intro unknown
    cases found : recordAsOf records l.entity l.ts with
    | none => rfl
    | some s =>
      obtain ⟨before, after, rfl, same, seen, -⟩ := newestPlaced.mp (asOfNewest.mp found)
      exact absurd ⟨same, seen⟩ (unknown s (by simp))

theorem suppliesIff {v : FeatureValue} : Supplies records l v ↔ valueAsOf records l.entity l.ts = v := by
  rw [valueOfRecord]
  constructor
  · rintro (⟨place, known, earlier, later⟩ | unknown)
    · rw [asOfNewest.mpr (newestPlaced.mpr ⟨_, _, place, known.1, known.2, earlier, later⟩)]
      rfl
    · rw [asOfAbsent.mpr unknown]
      rfl
  · rintro rfl
    cases found : recordAsOf records l.entity l.ts with
    | none => exact .absent (asOfAbsent.mp found)
    | some s =>
      obtain ⟨before, after, place, same, seen, earlier, later⟩ := newestPlaced.mp (asOfNewest.mp found)
      exact .newest place ⟨same, seen⟩ earlier later

theorem foldKnown (records : List ResourceRecord) (ts : Timestamp) (held : Option ResourceRecord) :
    records.foldl (laterAsOf ts) held = (upTo ts records).foldl (laterAsOf ts) held := by
  induction records generalizing held with
  | nil => rfl
  | cons r rest ih =>
    by_cases known : r.ts.le ts = true
    · simpa [upTo, known] using ih (laterAsOf ts held r)
    · simpa [upTo, known, laterAsOf] using ih held

theorem valueOfKnown (records : List ResourceRecord) (l : ResourceRecord) :
    valueAsOf records l.entity l.ts = valueAsOf (records.filter (Known l)) l.entity l.ts := by
  have kept : (records.filter (Known l)).filter (fun r => r.entity = l.entity) =
      upTo l.ts (records.filter fun r => r.entity = l.entity) := by
    rw [upTo, List.filter_filter, List.filter_filter]
    refine List.filter_congr fun r _ => ?_
    by_cases same : r.entity = l.entity <;> simp [Known, same]
  rw [valueAsOf, foldKnown, ← kept, valueAsOf]

end

/-! The same rows by an index of the records by entity and time. -/

def grouped (records : List ResourceRecord) : Bindings String (List ResourceRecord) :=
  records.foldl (fun b r => b.insert r.entity ((b.find? r.entity).getD [] ++ [r])) .empty

def index (records : List ResourceRecord) : Bindings String (List ResourceRecord) :=
  ⟨(grouped records).entries.map fun e => (e.1, byTime e.2)⟩

def lookUp (index : Bindings String (List ResourceRecord)) (entity : String) (ts : Timestamp) :
    FeatureValue :=
  (((index.find? entity).bind (lastUpTo ts)).map (·.value)).getD .null

theorem groupedFrom (b : Bindings String (List ResourceRecord)) (records : List ResourceRecord)
    (entity : String) :
    ((records.foldl (fun b r => b.insert r.entity ((b.find? r.entity).getD [] ++ [r])) b).find?
      entity).getD [] = (b.find? entity).getD [] ++ records.filter fun r => r.entity = entity := by
  induction records generalizing b with
  | nil => simp
  | cons r rest ih =>
    rw [List.foldl_cons, ih, Bindings.findInsert]
    by_cases here : r.entity = entity
    · simp [here]
    · simp [here]

theorem groupedFind (records : List ResourceRecord) (entity : String) :
    ((grouped records).find? entity).getD [] = records.filter fun r => r.entity = entity := by
  rw [grouped, groupedFrom]
  rfl

theorem indexFind (records : List ResourceRecord) (entity : String) :
    (index records).find? entity = ((grouped records).find? entity).map byTime := by
  simp only [index, Bindings.find?, List.find?_map, Option.map_map]
  rfl

theorem lookUpIndex (records : List ResourceRecord) (entity : String) (ts : Timestamp) :
    lookUp (index records) entity ts = valueAsOf records entity ts := by
  rw [valueScanned, scannedAsOf, ← groupedFind, lookUp, indexFind]
  cases (grouped records).find? entity with
  | none => simp [lastUpTo, byTime]
  | some found => rfl

end ResourceRecord

open ResourceRecord (Known Supplies index lookUp)

def joinIndexed (labels : List ResourceRecord) (features : List (List ResourceRecord)) :
    List TrainingSetRow :=
  let indexed := features.map index
  labels.map fun l => ⟨indexed.map fun i => lookUp i l.entity l.ts, l.value⟩

structure PointInTime (features : List (List ResourceRecord)) (l : ResourceRecord)
    (row : TrainingSetRow) : Prop where
  label : row.label = l.value
  entries : List.Forall₂ (fun records v => ∀ w, Supplies records l w ↔ v = w) features row.features
  knownOnly : ∀ others : List (List ResourceRecord),
    others.map (·.filter (Known l)) = features.map (·.filter (Known l)) →
      joinTrainingSet [l] others = [row]

theorem joinKnown (features : List (List ResourceRecord)) (l : ResourceRecord) :
    joinTrainingSet [l] features = joinTrainingSet [l] (features.map (·.filter (Known l))) := by
  have known : ∀ records ∈ features, ResourceRecord.valueAsOf records l.entity l.ts =
      ResourceRecord.valueAsOf (records.filter (Known l)) l.entity l.ts :=
    fun records _ => ResourceRecord.valueOfKnown records l
  simp only [joinTrainingSet, List.map_cons, List.map_nil, List.map_map, List.map_congr_left known]
  rfl

/-- Whatever the records and in whatever order: the join has one row for each label, in order, and each is
the point-in-time row of its label; an index by entity and time gives the same rows. -/
theorem joinsPointInTime (labels : List ResourceRecord) (features : List (List ResourceRecord)) :
    List.Forall₂ (PointInTime features) labels (joinTrainingSet labels features) ∧
      joinTrainingSet labels features = joinIndexed labels features := by
  constructor
  · rw [joinTrainingSet, List.forall₂_map_right_iff, List.forall₂_same]
    intro l _
    refine ⟨rfl, ?_, fun others same => ?_⟩
    · rw [List.forall₂_map_right_iff, List.forall₂_same]
      exact fun records _ w => ResourceRecord.suppliesIff
    · rw [joinKnown, same, ← joinKnown]
      rfl
  · refine List.map_congr_left fun l _ => ?_
    simp only [List.map_map, TrainingSetRow.mk.injEq, and_true]
    exact List.map_congr_left fun records _ => (ResourceRecord.lookUpIndex records l.entity l.ts).symm

example :
    let later : Timestamp := ⟨1, 0, by decide, by decide, by decide, by decide⟩
    joinTrainingSet [.ofValue "tea" (.bool true)]
        [[.ofValue "tea" (.int 2), (ResourceRecord.ofValue "tea" (.int 3)).atTime later,
          .ofValue "tea" (.int 4)], []] =
      [⟨[.int 4, .null], .bool true⟩] := rfl

end FeatureStore
