import FeatureStore.Bindings

/-!
Looking up what several bindings leave behind.
-/
namespace FeatureStore.Bindings
variable {κ ν : Type} [DecidableEq κ]

def insertAll (b : Bindings κ ν) (records : List (κ × ν)) : Bindings κ ν :=
  records.foldl (fun b r => b.insert r.1 r.2) b

theorem insertAllAppend (b : Bindings κ ν) (first more : List (κ × ν)) :
    b.insertAll (first ++ more) = (b.insertAll first).insertAll more := List.foldl_append

def last? (records : List (κ × ν)) (key : κ) : Option ν :=
  (records.reverse.find? fun r => r.1 = key).map (·.2)

theorem lastNone {records : List (κ × ν)} {key : κ} :
    last? records key = none ↔ ∀ r ∈ records, r.1 ≠ key := by
  simp [last?]

theorem lastSome {records : List (κ × ν)} {key : κ} {value : ν} (last : last? records key = some value) :
    (key, value) ∈ records := by
  obtain ⟨⟨k, v⟩, found, rfl⟩ := Option.map_eq_some_iff.mp last
  have same : k = key := by simpa using List.find?_some found
  rw [← same]
  simpa using List.mem_of_find?_eq_some found

theorem lastMapped {μ : Type} (f : ν → μ) (records : List (κ × ν)) (key : κ) :
    last? (records.map fun r => (r.1, f r.2)) key = (last? records key).map f := by
  simp only [last?, ← List.map_reverse, List.find?_map, Option.map_map]
  rfl

theorem findInsertAll (b : Bindings κ ν) (records : List (κ × ν)) (key : κ) :
    (b.insertAll records).find? key = (last? records key).or (b.find? key) := by
  induction records generalizing b with
  | nil => rfl
  | cons r rest ih =>
    have next : (b.insertAll (r :: rest)).find? key = ((b.insert r.1 r.2).insertAll rest).find? key := rfl
    rw [next, ih, findInsert, last?, last?, List.reverse_cons, List.find?_append]
    cases rest.reverse.find? fun r => r.1 = key with
    | some later => rfl
    | none =>
      by_cases here : r.1 = key
      · simp [here]
      · simp [here]

theorem insertAllAbsent {b : Bindings κ ν} {records : List (κ × ν)} {key : κ}
    (absent : ∀ r ∈ records, r.1 ≠ key) : (b.insertAll records).find? key = b.find? key := by
  rw [findInsertAll, lastNone.mpr absent, Option.none_or]

theorem insertAllAgreed {b : Bindings κ ν} {records : List (κ × ν)} {key : κ} {value : ν}
    (agreed : ∀ r ∈ records, r.1 = key → r.2 = value)
    (reached : (∃ r ∈ records, r.1 = key) ∨ b.find? key = some value) :
    (b.insertAll records).find? key = some value := by
  rw [findInsertAll]
  cases last : last? records key with
  | none =>
    rw [Option.none_or]
    refine reached.resolve_left ?_
    rintro ⟨r, mem, same⟩
    exact lastNone.mp last r mem same
  | some v =>
    have same : v = value := agreed (key, v) (lastSome last) rfl
    rw [same, Option.some_or]

theorem foundEntry {b : Bindings κ ν} {key : κ} {value : ν} (found : b.find? key = some value) :
    (key, value) ∈ b.entries := by
  unfold find? at found
  obtain ⟨e, there, rfl⟩ := Option.map_eq_some_iff.mp found
  have same : e.1 = key := by simpa using List.find?_some there
  exact same ▸ List.mem_of_find?_eq_some there

theorem notContainsIff {b : Bindings κ ν} {key : κ} : b.contains key = false ↔ b.find? key = none := by
  simp [contains]

theorem insertNewEntries {b : Bindings κ ν} {key : κ} (value : ν)
    (new : b.contains key = false) : (b.insert key value).entries = b.entries ++ [(key, value)] := by
  have none := notContainsIff.mp new
  obtain ⟨entries⟩ := b
  simp only [find?, Option.map_eq_none_iff] at none
  simp only [insert]
  induction entries with
  | nil => rfl
  | cons e rest ih =>
    simp only [List.find?_cons] at none
    split at none <;> try contradiction
    rename_i other
    have more := ih (by simp [contains, find?, none]) none
    rw [insertInto, if_neg (by simpa using other), more]
    rfl

theorem insertNew {b : Bindings κ ν} {key : κ} (value : ν)
    (new : b.contains key = false) : (b.insert key value).values = b.values ++ [value] := by
  rw [values, insertNewEntries value new, List.map_append]
  rfl

theorem eraseAbsent {b : Bindings κ ν} {key : κ} (absent : b.contains key = false) :
    b.erase key = b := by
  have none := notContainsIff.mp absent
  simp only [find?, Option.map_eq_none_iff, List.find?_eq_none, decide_eq_true_eq] at none
  refine congrArg mk (List.filter_eq_self.mpr fun e mem => ?_)
  simpa using none e mem

theorem eraseInsertNew {b : Bindings κ ν} {key : κ} (value : ν) (new : b.contains key = false) :
    (b.insert key value).erase key = b := by
  have kept := congrArg entries (eraseAbsent new)
  obtain ⟨old⟩ := b
  simp only [erase, Bindings.mk.injEq] at kept ⊢
  rw [insertNewEntries value new, List.filter_append, kept]
  simp

def KeyedBy (p : κ → Prop) (b : Bindings κ ν) : Prop := ∀ key value, b.find? key = some value → p key

theorem KeyedBy.empty {p : κ → Prop} : (empty : Bindings κ ν).KeyedBy p :=
  fun _ _ found => by cases found

theorem KeyedBy.insert {p : κ → Prop} {b : Bindings κ ν} {key : κ} (keyed : b.KeyedBy p) (new : p key)
    (value : ν) : (b.insert key value).KeyedBy p := by
  intro other v found
  rw [findInsert] at found
  split at found
  · rename_i same
    exact same ▸ new
  · exact keyed other v found

end FeatureStore.Bindings
