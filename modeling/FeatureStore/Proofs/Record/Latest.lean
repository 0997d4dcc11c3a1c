import FeatureStore.Proofs.Text.Utf8
import FeatureStore.Record
import Mathlib.Data.List.Induction

/-!
The latest record of each entity. `Newest` says which record of a list counts for its entity, without
a word on how it is found; `latestPerEntity` keeps exactly these, in ascending order of entities. What
is kept stands for the records that it was taken from when more of them come.
-/
namespace FeatureStore

namespace Timestamp

theorem ltIff (a b : Timestamp) :
    a.lt b = true ↔ a.seconds < b.seconds ∨ a.seconds = b.seconds ∧ a.nanos < b.nanos := by
  simp [lt]

theorem leIff (a b : Timestamp) :
    a.le b = true ↔ a.seconds < b.seconds ∨ a.seconds = b.seconds ∧ a.nanos ≤ b.nanos := by
  simp only [le, Bool.not_eq_true', ← Bool.not_eq_true, ltIff]
  omega

theorem leRefl (a : Timestamp) : a.le a = true := by
  rw [leIff]
  omega

theorem leTrans {a b c : Timestamp} (ab : a.le b = true) (bc : b.le c = true) : a.le c = true := by
  rw [leIff] at *
  omega

theorem leOfNotLt {a b : Timestamp} (h : ¬ a.lt b = true) : b.le a = true := by
  simpa [le] using h

theorem leOfLt {a b : Timestamp} (h : a.lt b = true) : a.le b = true := by
  rw [ltIff] at h
  rw [leIff]
  omega

theorem notLtOfLe {a b : Timestamp} (h : a.le b = true) : ¬ b.lt a = true := by
  simpa [le] using h

end Timestamp

namespace ResourceRecord

theorem entitySame {a b : String} (notBefore : ¬ a < b) (notAfter : ¬ b < a) : a = b :=
  String.le_antisymm (String.not_lt.mp notAfter) (String.not_lt.mp notBefore)

theorem entityApart {a b : String} (before : a < b) : a ≠ b :=
  fun same => String.lt_irrefl b (same ▸ before)

/- A record with the greatest time of its entity, the last one of equal times. -/
def Newest (records : List ResourceRecord) (r : ResourceRecord) : Prop :=
  ∃ before after, records = before ++ r :: after ∧
    (∀ x ∈ before, x.entity = r.entity → x.ts.le r.ts = true) ∧
    ∀ x ∈ after, x.entity = r.entity → x.ts.lt r.ts = true

theorem newestMember {records r} (h : Newest records r) : r ∈ records := by
  obtain ⟨before, after, rfl, -⟩ := h
  simp

theorem newestSnoc {records r s} :
    Newest (records ++ [r]) s ↔
      (Newest records s ∧ (r.entity = s.entity → r.ts.lt s.ts = true)) ∨
      (s = r ∧ ∀ x ∈ records, x.entity = r.entity → x.ts.le r.ts = true) := by
  constructor
  · rintro ⟨before, after, split, earlier, later⟩
    rcases List.eq_nil_or_concat after with rfl | ⟨init, last, rfl⟩
    · obtain ⟨rfl, same⟩ := List.append_inj' split rfl
      cases same
      exact .inr ⟨rfl, earlier⟩
    · rw [List.concat_eq_append, ← List.cons_append, ← List.append_assoc] at split
      obtain ⟨rfl, same⟩ := List.append_inj' split rfl
      cases same
      refine .inl ⟨⟨before, init, rfl, earlier, fun x mem => later x (by simp [mem])⟩, ?_⟩
      exact later r (by simp)
  · rintro (⟨⟨before, after, rfl, earlier, later⟩, last⟩ | ⟨rfl, earlier⟩)
    · refine ⟨before, after ++ [r], by simp, earlier, ?_⟩
      intro x mem same
      rcases List.mem_append.mp mem with inside | atEnd
      · exact later x inside same
      · rw [List.mem_singleton.mp atEnd] at same ⊢
        exact last same
    · exact ⟨records, [], rfl, earlier, by simp⟩

structure Kept (seen latest : List ResourceRecord) : Prop where
  ascending : latest.Pairwise fun a b => a.entity < b.entity
  newest : ∀ r, r ∈ latest ↔ Newest seen r
  covered : ∀ x ∈ seen, ∃ r ∈ latest, r.entity = x.entity ∧ x.ts.le r.ts = true

theorem insertedEntity {r s latest} (mem : s ∈ insertLatest r latest) :
    s ∈ latest ∨ s.entity = r.entity := by
  induction latest with
  | nil => exact .inr (congrArg entity (List.mem_singleton.mp mem))
  | cons t rest ih =>
    simp only [insertLatest] at mem
    split at mem
    · rcases List.mem_cons.mp mem with rfl | inside
      · exact .inr rfl
      · exact .inl inside
    · split at mem
      · rcases List.mem_cons.mp mem with rfl | inside
        · exact .inl (by simp)
        · rcases ih inside with inRest | same
          · exact .inl (by simp [inRest])
          · exact .inr same
      · split at mem
        · exact .inl mem
        · rcases List.mem_cons.mp mem with rfl | inside
          · exact .inr rfl
          · exact .inl (by simp [inside])

theorem insertedAscending {r latest}
    (ascending : latest.Pairwise fun a b => a.entity < b.entity) :
    (insertLatest r latest).Pairwise fun a b => a.entity < b.entity := by
  induction latest with
  | nil => simp [insertLatest]
  | cons t rest ih =>
    obtain ⟨first, tail⟩ := List.pairwise_cons.mp ascending
    simp only [insertLatest]
    split
    · rename_i before
      refine List.pairwise_cons.mpr ⟨?_, ascending⟩
      intro x mem
      rcases List.mem_cons.mp mem with rfl | inside
      · exact before
      · exact String.lt_trans before (first x inside)
    · split
      · rename_i after
        refine List.pairwise_cons.mpr ⟨?_, ih tail⟩
        intro x mem
        rcases insertedEntity mem with inside | same
        · exact first x inside
        · rw [same]
          exact after
      · rename_i notBefore notAfter
        have same := entitySame notBefore notAfter
        split
        · exact ascending
        · refine List.pairwise_cons.mpr ⟨?_, tail⟩
          intro x mem
          rw [same]
          exact first x mem

theorem entityUnique {latest : List ResourceRecord} {a b}
    (ascending : latest.Pairwise fun a b => a.entity < b.entity)
    (ha : a ∈ latest) (hb : b ∈ latest) (same : a.entity = b.entity) : a = b := by
  induction latest with
  | nil => simp at ha
  | cons t rest ih =>
    obtain ⟨first, tail⟩ := List.pairwise_cons.mp ascending
    rcases List.mem_cons.mp ha with rfl | inA <;> rcases List.mem_cons.mp hb with rfl | inB
    · rfl
    · exact absurd same (entityApart (first b inB))
    · exact absurd same.symm (entityApart (first a inA))
    · exact ih tail inA inB

theorem insertedInFront {r s : ResourceRecord} {latest : List ResourceRecord}
    (absent : ∀ x ∈ latest, x.entity ≠ r.entity) :
    s ∈ r :: latest ↔
      (s ∈ latest ∧ (r.entity = s.entity → r.ts.lt s.ts = true)) ∨
      (s = r ∧ ∀ x ∈ latest, x.entity = r.entity → x.ts.le r.ts = true) := by
  rw [List.mem_cons]
  constructor
  · rintro (rfl | inside)
    · exact .inr ⟨rfl, fun x inside same => absurd same (absent x inside)⟩
    · exact .inl ⟨inside, fun same => absurd same.symm (absent s inside)⟩
  · rintro (⟨inside, -⟩ | ⟨rfl, -⟩)
    · exact .inr inside
    · exact .inl rfl

theorem insertedBehind {r s t : ResourceRecord} {rest latest : List ResourceRecord}
    (other : t.entity ≠ r.entity)
    (inserted : s ∈ latest ↔
      (s ∈ rest ∧ (r.entity = s.entity → r.ts.lt s.ts = true)) ∨
      (s = r ∧ ∀ x ∈ rest, x.entity = r.entity → x.ts.le r.ts = true)) :
    s ∈ t :: latest ↔
      (s ∈ t :: rest ∧ (r.entity = s.entity → r.ts.lt s.ts = true)) ∨
      (s = r ∧ ∀ x ∈ t :: rest, x.entity = r.entity → x.ts.le r.ts = true) := by
  rw [List.mem_cons, inserted]
  constructor
  · rintro (rfl | ⟨inside, later⟩ | ⟨rfl, earlier⟩)
    · exact .inl ⟨List.mem_cons_self, fun same => absurd same.symm other⟩
    · exact .inl ⟨List.mem_cons_of_mem t inside, later⟩
    · refine .inr ⟨rfl, fun x mem same => ?_⟩
      rcases List.mem_cons.mp mem with rfl | inside
      · exact absurd same other
      · exact earlier x inside same
  · rintro (⟨mem, later⟩ | ⟨rfl, earlier⟩)
    · rcases List.mem_cons.mp mem with rfl | inside
      · exact .inl rfl
      · exact .inr (.inl ⟨inside, later⟩)
    · exact .inr (.inr ⟨rfl, fun x inside => earlier x (List.mem_cons_of_mem t inside)⟩)

theorem insertedInPlace {r s t : ResourceRecord} {rest : List ResourceRecord}
    (same : r.entity = t.entity) (others : ∀ x ∈ rest, r.entity ≠ x.entity) :
    s ∈ (if r.ts.lt t.ts then t :: rest else r :: rest) ↔
      (s ∈ t :: rest ∧ (r.entity = s.entity → r.ts.lt s.ts = true)) ∨
      (s = r ∧ ∀ x ∈ t :: rest, x.entity = r.entity → x.ts.le r.ts = true) := by
  split
  · rename_i older
    constructor
    · intro mem
      rcases List.mem_cons.mp mem with rfl | inside
      · exact .inl ⟨mem, fun _ => older⟩
      · exact .inl ⟨mem, fun h => absurd h (others s inside)⟩
    · rintro (⟨mem, -⟩ | ⟨rfl, earlier⟩)
      · exact mem
      · exact absurd older (Timestamp.notLtOfLe (earlier t List.mem_cons_self same.symm))
  · rename_i newer
    constructor
    · intro mem
      rcases List.mem_cons.mp mem with rfl | inside
      · refine .inr ⟨rfl, fun x mem h => ?_⟩
        rcases List.mem_cons.mp mem with rfl | inside
        · exact Timestamp.leOfNotLt newer
        · exact absurd h.symm (others x inside)
      · exact .inl ⟨List.mem_cons_of_mem t inside, fun h => absurd h (others s inside)⟩
    · rintro (⟨mem, later⟩ | ⟨rfl, -⟩)
      · rcases List.mem_cons.mp mem with rfl | inside
        · exact absurd (later same) newer
        · exact List.mem_cons_of_mem r inside
      · exact List.mem_cons_self

theorem insertedMember {r s latest}
    (ascending : latest.Pairwise fun a b => a.entity < b.entity) :
    s ∈ insertLatest r latest ↔
      (s ∈ latest ∧ (r.entity = s.entity → r.ts.lt s.ts = true)) ∨
      (s = r ∧ ∀ x ∈ latest, x.entity = r.entity → x.ts.le r.ts = true) := by
  induction latest with
  | nil => simp [insertLatest]
  | cons t rest ih =>
    obtain ⟨first, tail⟩ := List.pairwise_cons.mp ascending
    simp only [insertLatest]
    split
    · rename_i before
      refine insertedInFront fun x mem => (entityApart ?_).symm
      rcases List.mem_cons.mp mem with rfl | inside
      · exact before
      · exact String.lt_trans before (first x inside)
    · rename_i notBefore
      split
      · rename_i after
        exact insertedBehind (entityApart after) (ih tail)
      · rename_i notAfter
        have same := entitySame notBefore notAfter
        exact insertedInPlace same fun x inside => same ▸ entityApart (first x inside)

theorem keptInsert {seen latest} (r : ResourceRecord) (kept : Kept seen latest) :
    Kept (seen ++ [r]) (insertLatest r latest) := by
  -- The kept records bound all that were seen, so that the new one need only be compared with them.
  have bounds : (∀ x ∈ latest, x.entity = r.entity → x.ts.le r.ts = true) ↔
      ∀ x ∈ seen, x.entity = r.entity → x.ts.le r.ts = true := by
    constructor
    · intro h x mem same
      obtain ⟨y, inside, entity, le⟩ := kept.covered x mem
      exact Timestamp.leTrans le (h y inside (entity.trans same))
    · intro h x mem same
      exact h x (newestMember ((kept.newest x).mp mem)) same
  refine ⟨insertedAscending kept.ascending, ?_, ?_⟩
  · intro s
    rw [insertedMember kept.ascending, newestSnoc, kept.newest, bounds]
  · intro x mem
    rcases List.mem_append.mp mem with inSeen | atEnd
    · obtain ⟨y, inside, same, le⟩ := kept.covered x inSeen
      by_cases beaten : r.entity = y.entity → r.ts.lt y.ts = true
      · exact ⟨y, (insertedMember kept.ascending).mpr (.inl ⟨inside, beaten⟩), same, le⟩
      · rw [Classical.not_imp] at beaten
        obtain ⟨entity, newer⟩ := beaten
        have passed := Timestamp.leOfNotLt newer
        have only : ∀ z ∈ latest, z.entity = r.entity → z.ts.le r.ts = true := by
          intro z inZ sameZ
          rw [entityUnique kept.ascending inZ inside (sameZ.trans entity)]
          exact passed
        exact ⟨r, (insertedMember kept.ascending).mpr (.inr ⟨rfl, only⟩), entity.trans same,
          Timestamp.leTrans le passed⟩
    · rw [List.mem_singleton.mp atEnd]
      by_cases passed : ∀ z ∈ latest, z.entity = r.entity → z.ts.le r.ts = true
      · exact ⟨r, (insertedMember kept.ascending).mpr (.inr ⟨rfl, passed⟩), rfl, Timestamp.leRefl _⟩
      · simp only [Classical.not_forall, exists_prop] at passed
        obtain ⟨z, inZ, sameZ, newer⟩ := passed
        have older : r.ts.lt z.ts = true := by simpa [Timestamp.le] using newer
        exact ⟨z, (insertedMember kept.ascending).mpr (.inl ⟨inZ, fun _ => older⟩), sameZ,
          Timestamp.leOfLt older⟩

theorem keptFold {seen latest} (kept : Kept seen latest) (records : List ResourceRecord) :
    Kept (seen ++ records) (records.foldl (fun latest r => insertLatest r latest) latest) := by
  induction records generalizing seen latest with
  | nil => simpa using kept
  | cons r rest ih =>
    have next := ih (keptInsert r kept)
    rwa [List.append_assoc, List.singleton_append] at next

theorem keptLatest (records : List ResourceRecord) : Kept records (latestPerEntity records) := by
  have start : Kept [] [] := ⟨.nil, by simp [Newest], by simp⟩
  exact keptFold start records

theorem insertedLength (r : ResourceRecord) (latest : List ResourceRecord) :
    (insertLatest r latest).length ≤ latest.length + 1 := by
  induction latest with
  | nil => simp [insertLatest]
  | cons s rest ih =>
    simp only [insertLatest]
    split
    · simp
    · split
      · simpa using ih
      · split <;> simp

theorem latestLength (records : List ResourceRecord) :
    (latestPerEntity records).length ≤ records.length := by
  have bounded (latest records : List ResourceRecord) :
      (records.foldl (fun latest r => insertLatest r latest) latest).length ≤
        latest.length + records.length := by
    induction records generalizing latest with
    | nil => simp
    | cons r rest ih =>
      have one := insertedLength r latest
      have more := ih (insertLatest r latest)
      simp only [List.foldl_cons, List.length_cons]
      omega
  simpa [latestPerEntity] using bounded [] records

theorem newestUnique {records r s} (hr : Newest records r) (hs : Newest records s)
    (same : r.entity = s.entity) : r = s :=
  let kept := keptLatest records
  entityUnique kept.ascending ((kept.newest r).mpr hr) ((kept.newest s).mpr hs) same

theorem newestExists {records x} (mem : x ∈ records) :
    ∃ r, Newest records r ∧ r.entity = x.entity := by
  obtain ⟨r, inside, same, -⟩ := (keptLatest records).covered x mem
  exact ⟨r, ((keptLatest records).newest r).mp inside, same⟩

theorem latestAppend (records more : List ResourceRecord) :
    latestPerEntity (records ++ more) =
      more.foldl (fun latest r => insertLatest r latest) (latestPerEntity records) :=
  List.foldl_append

theorem insertedBeyond {r : ResourceRecord} {latest : List ResourceRecord}
    (beyond : ∀ x ∈ latest, x.entity < r.entity) : insertLatest r latest = latest ++ [r] := by
  induction latest with
  | nil => rfl
  | cons s rest ih =>
    have before : s.entity < r.entity := beyond s List.mem_cons_self
    have more := ih fun x inside => beyond x (List.mem_cons_of_mem s inside)
    rw [insertLatest, if_neg (String.lt_asymm before), if_pos before, more, List.cons_append]

theorem latestOfAscending {latest : List ResourceRecord}
    (ascending : latest.Pairwise fun a b => a.entity < b.entity) : latestPerEntity latest = latest := by
  induction latest using List.reverseRecOn with
  | nil => rfl
  | append_singleton init r ih =>
    obtain ⟨inOrder, -, beyond⟩ := List.pairwise_append.mp ascending
    rw [latestAppend, ih inOrder, List.foldl_cons, List.foldl_nil]
    exact insertedBeyond fun x inside => beyond x inside r List.mem_cons_self

theorem latestEntities (records : List ResourceRecord) (e : String) :
    e ∈ (latestPerEntity records).map entity ↔ e ∈ records.map entity := by
  simp only [List.mem_map]
  constructor
  · rintro ⟨r, inside, rfl⟩
    exact ⟨r, newestMember (((keptLatest records).newest r).mp inside), rfl⟩
  · rintro ⟨x, mem, rfl⟩
    obtain ⟨r, inside, same, -⟩ := (keptLatest records).covered x mem
    exact ⟨r, inside, same⟩

theorem keepsNewestInOrder (records more : List ResourceRecord) :
    ((latestPerEntity records).Pairwise fun a b => Text.utf8 a.entity < Text.utf8 b.entity) ∧
      ((latestPerEntity records).map entity).Nodup ∧
      (∀ e, e ∈ (latestPerEntity records).map entity ↔ e ∈ records.map entity) ∧
      (∀ r, r ∈ latestPerEntity records ↔ Newest records r) ∧
      latestPerEntity (records ++ more) = latestPerEntity (latestPerEntity records ++ more) := by
  have kept := keptLatest records
  refine ⟨kept.ascending.imp Text.utf8Lt, ?_, latestEntities records, kept.newest, ?_⟩
  · exact List.pairwise_map.mpr (kept.ascending.imp entityApart)
  · rw [latestAppend, latestAppend, latestOfAscending kept.ascending]

end ResourceRecord
end FeatureStore
