import FeatureStore.Proofs.Record.Latest

/-!
The value of an entity as it was known at a time: it is the value of the newest of the records up to
then. Going through the records in the order in which they were written finds the same record as
sorting those of the entity by time and searching from the end.
-/
namespace FeatureStore.ResourceRecord

def recordAsOf (records : List ResourceRecord) (entity : String) (ts : Timestamp) :
    Option ResourceRecord :=
  (records.filter fun r => r.entity = entity).foldl (laterAsOf ts) none

theorem valueOfRecord (records : List ResourceRecord) (entity : String) (ts : Timestamp) :
    valueAsOf records entity ts = ((recordAsOf records entity ts).map (·.value)).getD .null := by
  rw [valueAsOf, recordAsOf]
  cases (records.filter fun r => r.entity = entity).foldl (laterAsOf ts) none <;> rfl

theorem newestBounds {records : List ResourceRecord} {r x : ResourceRecord} (newest : Newest records r)
    (mem : x ∈ records) (same : x.entity = r.entity) : x.ts.le r.ts = true := by
  obtain ⟨before, after, rfl, earlier, later⟩ := newest
  rcases List.mem_append.mp mem with inBefore | inRest
  · exact earlier x inBefore same
  rcases List.mem_cons.mp inRest with rfl | inAfter
  · exact Timestamp.leRefl _
  · exact Timestamp.leOfLt (later x inAfter same)

theorem newestFilter {records : List ResourceRecord} {p : ResourceRecord → Bool} {s : ResourceRecord}
    (kept : ∀ x ∈ records, x.entity = s.entity → p x = true) :
    Newest (records.filter p) s ↔ Newest records s := by
  have forward {t : ResourceRecord} (same : t.entity = s.entity) (newest : Newest records t) :
      Newest (records.filter p) t := by
    have stays : p t = true := kept t (newestMember newest) same
    obtain ⟨before, after, rfl, earlier, later⟩ := newest
    refine ⟨before.filter p, after.filter p, by simp [stays], fun x mem => ?_, fun x mem => ?_⟩
    · exact earlier x (List.mem_filter.mp mem).1
    · exact later x (List.mem_filter.mp mem).1
  constructor
  · intro newest
    obtain ⟨t, whole, same⟩ := newestExists (List.mem_filter.mp (newestMember newest)).1
    rwa [newestUnique newest (forward same whole) same.symm]
  · exact forward rfl

def upTo (ts : Timestamp) (records : List ResourceRecord) : List ResourceRecord :=
  records.filter fun r => r.ts.le ts

theorem upToKnown {ts : Timestamp} {r : ResourceRecord} (known : r.ts.le ts = true)
    (seen : List ResourceRecord) : upTo ts (seen ++ [r]) = upTo ts seen ++ [r] := by
  simp [upTo, known]

theorem upToUnknown {ts : Timestamp} {r : ResourceRecord} (unknown : ¬ r.ts.le ts = true)
    (seen : List ResourceRecord) : upTo ts (seen ++ [r]) = upTo ts seen := by
  simp [upTo, unknown]

def HeldAsOf (entity : String) (ts : Timestamp) (seen : List ResourceRecord)
    (held : Option ResourceRecord) : Prop :=
  ∀ s, held = some s ↔ s.entity = entity ∧ Newest (upTo ts seen) s

namespace HeldAsOf
variable {entity : String} {ts : Timestamp} {seen : List ResourceRecord} {held : Option ResourceRecord}
  {r : ResourceRecord}

theorem passed (holds : HeldAsOf entity ts seen held) (other : r.entity ≠ entity) :
    HeldAsOf entity ts (seen ++ [r]) held := by
  intro s
  rw [holds s]
  refine and_congr_right fun here => ?_
  have apart : r.entity ≠ s.entity := fun same => other (same.trans here)
  by_cases known : r.ts.le ts = true
  · rw [upToKnown known, newestSnoc]
    constructor
    · exact fun newest => .inl ⟨newest, fun same => absurd same apart⟩
    · rintro (⟨newest, -⟩ | ⟨rfl, -⟩)
      · exact newest
      · exact absurd rfl apart
  · rw [upToUnknown known]

theorem first (holds : HeldAsOf entity ts seen none) (here : r.entity = entity)
    (known : r.ts.le ts = true) : HeldAsOf entity ts (seen ++ [r]) (some r) := by
  have unseen : ∀ x ∈ upTo ts seen, x.entity ≠ entity := by
    intro x mem same
    obtain ⟨t, newest, entityT⟩ := newestExists mem
    exact absurd ((holds t).mpr ⟨entityT.trans same, newest⟩) (by simp)
  intro s
  rw [upToKnown known, newestSnoc]
  constructor
  · rintro ⟨⟩
    exact ⟨here, .inr ⟨rfl, fun x mem same => absurd (same.trans here) (unseen x mem)⟩⟩
  · rintro ⟨entityS, ⟨newest, -⟩ | ⟨rfl, -⟩⟩
    · exact absurd entityS (unseen s (newestMember newest))
    · rfl

theorem compared {h : ResourceRecord} (holds : HeldAsOf entity ts seen (some h))
    (here : r.entity = entity) (known : r.ts.le ts = true) :
    HeldAsOf entity ts (seen ++ [r]) (if r.ts.lt h.ts then some h else some r) := by
  obtain ⟨entityH, newest⟩ := (holds h).mp rfl
  have same : r.entity = h.entity := here.trans entityH.symm
  intro s
  rw [upToKnown known, newestSnoc]
  constructor
  · intro kept
    split at kept <;> cases kept
    · rename_i older
      exact ⟨entityH, .inl ⟨newest, fun _ => older⟩⟩
    · rename_i notOlder
      refine ⟨here, .inr ⟨rfl, fun x mem sameX => ?_⟩⟩
      exact Timestamp.leTrans (newestBounds newest mem (sameX.trans same)) (Timestamp.leOfNotLt notOlder)
  · rintro ⟨entityS, ⟨newestS, later⟩ | ⟨rfl, bounds⟩⟩
    · obtain rfl := newestUnique newestS newest (entityS.trans entityH.symm)
      rw [if_pos (later same)]
    · rw [if_neg (Timestamp.notLtOfLe (bounds h (newestMember newest) same.symm))]

theorem met (holds : HeldAsOf entity ts seen held) (here : r.entity = entity) :
    HeldAsOf entity ts (seen ++ [r]) (laterAsOf ts held r) := by
  unfold laterAsOf
  split
  · rename_i known
    cases held with
    | none => exact holds.first here known
    | some h => exact holds.compared here known
  · rename_i unknown
    intro s
    rw [upToUnknown unknown]
    exact holds s

theorem fold (holds : HeldAsOf entity ts seen held) (records : List ResourceRecord) :
    HeldAsOf entity ts (seen ++ records)
      ((records.filter fun r => r.entity = entity).foldl (laterAsOf ts) held) := by
  induction records generalizing seen held with
  | nil => simpa using holds
  | cons r rest ih =>
    by_cases here : r.entity = entity
    · simpa [here] using ih (holds.met here)
    · simpa [here] using ih (holds.passed here)

end HeldAsOf

theorem asOfNewest {records : List ResourceRecord} {entity : String} {ts : Timestamp}
    {s : ResourceRecord} :
    recordAsOf records entity ts = some s ↔ s.entity = entity ∧ Newest (upTo ts records) s := by
  have start : HeldAsOf entity ts [] none := fun s => by simp [upTo, Newest]
  exact start.fold records s

theorem asOfEnd {records : List ResourceRecord} {entity : String} {ts : Timestamp} {s : ResourceRecord}
    (seen : ∀ r ∈ records, r.entity = entity → r.ts.le ts = true) :
    recordAsOf records entity ts = some s ↔ s.entity = entity ∧ s ∈ latestPerEntity records := by
  rw [asOfNewest, (keptLatest records).newest]
  exact and_congr_right fun here => newestFilter fun x mem same => seen x mem (same.trans here)

/-! The same value by searching from the end of the records, sorted by time. -/

def laterOf : Option ResourceRecord → Option ResourceRecord → Option ResourceRecord
  | some h, some r => if r.ts.lt h.ts then some h else some r
  | held, none => held
  | none, found => found

theorem laterOfAssoc (a b c : Option ResourceRecord) :
    laterOf (laterOf a b) c = laterOf a (laterOf b c) := by
  rcases a with _ | a <;> rcases b with _ | b <;> rcases c with _ | c <;> simp only [laterOf] <;>
    grind [Timestamp.ltIff]

def knownAt (ts : Timestamp) (r : ResourceRecord) : Option ResourceRecord :=
  if r.ts.le ts then some r else none

theorem laterAsOfKnown (ts : Timestamp) (held : Option ResourceRecord) (r : ResourceRecord) :
    laterAsOf ts held r = laterOf held (knownAt ts r) := by
  unfold laterAsOf knownAt
  split <;> cases held <;> rfl

theorem laterAsOfNone (ts : Timestamp) (r : ResourceRecord) : laterAsOf ts none r = knownAt ts r := by
  rw [laterAsOfKnown]
  cases knownAt ts r <;> rfl

theorem foldHeld (ts : Timestamp) (held : Option ResourceRecord) (records : List ResourceRecord) :
    records.foldl (laterAsOf ts) held = laterOf held (records.foldl (laterAsOf ts) none) := by
  induction records generalizing held with
  | nil => cases held <;> rfl
  | cons r rest ih =>
    rw [List.foldl_cons, List.foldl_cons, ih, ih (laterAsOf ts none r), laterAsOfNone, laterAsOfKnown,
      laterOfAssoc]

def lastUpTo (ts : Timestamp) (records : List ResourceRecord) : Option ResourceRecord :=
  records.reverse.find? fun r => r.ts.le ts

theorem lastUpToAppend (ts : Timestamp) (a b : List ResourceRecord) :
    lastUpTo ts (a ++ b) = (lastUpTo ts b).or (lastUpTo ts a) := by
  rw [lastUpTo, List.reverse_append, List.find?_append]
  rfl

theorem lastUpToMember {ts : Timestamp} {records : List ResourceRecord} {r : ResourceRecord}
    (found : lastUpTo ts records = some r) : r ∈ records :=
  List.mem_reverse.mp (List.mem_of_find?_eq_some found)

theorem lastUpToBetween {ts : Timestamp} {before after : List ResourceRecord} {r : ResourceRecord}
    (earlier : ∀ x ∈ before, x.ts.lt r.ts = true) (later : ∀ x ∈ after, r.ts.le x.ts = true) :
    lastUpTo ts (before ++ r :: after) = laterOf (knownAt ts r) (lastUpTo ts (before ++ after)) := by
  have single : lastUpTo ts [r] = knownAt ts r := by
    unfold lastUpTo knownAt
    by_cases known : r.ts.le ts = true <;> simp [known]
  rw [List.append_cons, lastUpToAppend, lastUpToAppend, single, lastUpToAppend]
  cases last : lastUpTo ts after with
  | some s =>
    have notBefore := Timestamp.notLtOfLe (later s (lastUpToMember last))
    by_cases known : r.ts.le ts = true <;> simp [knownAt, known, laterOf, notBefore]
  | none =>
    cases first : lastUpTo ts before with
    | none => cases knownAt ts r <;> rfl
    | some b =>
      have older := earlier b (lastUpToMember first)
      by_cases known : r.ts.le ts = true <;> simp [knownAt, known, laterOf, older]

def byTime (records : List ResourceRecord) : List ResourceRecord :=
  records.mergeSort fun a b => a.ts.le b.ts

theorem byTimeCons (r : ResourceRecord) (rest : List ResourceRecord) :
    ∃ before after, byTime (r :: rest) = before ++ r :: after ∧ byTime rest = before ++ after ∧
      (∀ x ∈ before, x.ts.lt r.ts = true) ∧ ∀ x ∈ after, r.ts.le x.ts = true := by
  have transitive (a b c : ResourceRecord) (ab : a.ts.le b.ts = true) (bc : b.ts.le c.ts = true) :
      a.ts.le c.ts = true := Timestamp.leTrans ab bc
  have total (a b : ResourceRecord) : (a.ts.le b.ts || b.ts.le a.ts) = true := by
    by_cases before : a.ts.lt b.ts = true
    · simp [Timestamp.leOfLt before]
    · simp [Timestamp.leOfNotLt before]
  obtain ⟨before, after, sorted, others, earlier⟩ := List.mergeSort_cons transitive total r rest
  have ordered := List.pairwise_mergeSort transitive total (r :: rest)
  rw [sorted, List.pairwise_append, List.pairwise_cons] at ordered
  refine ⟨before, after, sorted, others, fun x mem => ?_, ordered.2.1.1⟩
  simpa [Timestamp.le] using earlier x mem

theorem lastUpToByTime (ts : Timestamp) (records : List ResourceRecord) :
    lastUpTo ts (byTime records) = records.foldl (laterAsOf ts) none := by
  induction records with
  | nil => simp [lastUpTo, byTime]
  | cons r rest ih =>
    obtain ⟨before, after, sorted, others, earlier, later⟩ := byTimeCons r rest
    rw [List.foldl_cons, foldHeld, laterAsOfNone, ← ih, sorted, others, lastUpToBetween earlier later]

def scannedAsOf (records : List ResourceRecord) (entity : String) (ts : Timestamp) : FeatureValue :=
  ((lastUpTo ts (byTime (records.filter fun r => r.entity = entity))).map (·.value)).getD .null

theorem valueScanned (records : List ResourceRecord) (entity : String) (ts : Timestamp) :
    valueAsOf records entity ts = scannedAsOf records entity ts := by
  rw [scannedAsOf, lastUpToByTime, valueOfRecord, recordAsOf]

end FeatureStore.ResourceRecord
