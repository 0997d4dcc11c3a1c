import FeatureStore.Proofs.Job.Copy

/-!
The chunks of a snapshot cut its rows into consecutive ranges, up to the greatest number of rows that a
word holds. Who reads the chunks one after another gets every row once and in order.
-/
namespace FeatureStore.Chunk

section
variable {m : Type → Type} [Monad m]

def readEach (snapshot : Materialization m) (size : Int64) :
    List Nat → Task m (List (Except Error ResourceRecord))
  | [] => return []
  | index :: rest => do
    match range? ⟨size, .ofNat index⟩ (← snapshot.numRows) with
    | none => readEach snapshot size rest
    | some (first, last) =>
      let here ← snapshot.segment first last
      let more ← readEach snapshot size rest
      return here ++ more

end

theorem readEachOn (id : MaterializationId) {size : Int64} (positive : 0 < size)
    {records : List ResourceRecord} (small : records.length < 2 ^ 63) {indices : List Nat}
    (words : ∀ index ∈ indices, index < 2 ^ 63) (m : Memory) :
    (readEach (Memory.materialization id records) size indices).on m =
      (.ok ((indices.flatMap fun index => slice size.toNatClampNeg index records).map .ok), m) := by
  induction indices with
  | nil => rfl
  | cons index rest ih =>
    have later := ih fun i mem => words i (List.mem_cons_of_mem _ mem)
    have here := rangeOf positive small (words index List.mem_cons_self)
    unfold readEach
    simp only [Memory.materialization, Task.onBind, Task.onPure, here]
    split
    · rename_i past
      split at past <;> try contradiction
      rename_i behind
      rw [List.flatMap_cons, Copy.slicePast behind, List.nil_append]
      exact later
    · rename_i first last within
      split at within <;> try contradiction
      rename_i inside
      cases Option.some.inj within
      rw [Memory.segmentOfWords _ _ (by omega) (by omega), Copy.cutSlice]
      simp only [Task.onBind, Task.onExcept, Task.mapErrorOk, Task.onPure]
      rw [← Memory.materialization, later]
      simp

variable {rows size : Int64}

section
variable {rows index : Nat}

theorem rangeInside (positive : 0 < size) (small : rows < 2 ^ 63)
    (inside : index < cover rows size.toNatClampNeg) :
    range? ⟨size, .ofNat index⟩ (.ofNat rows) = some (.ofNat (index * size.toNatClampNeg),
      .ofNat (min (index * size.toNatClampNeg + size.toNatClampNeg) rows)) := by
  obtain ⟨-, sizePos, -⟩ := sizeOfPositive positive
  have begins := (coverTight sizePos).mp inside
  have bounded : cover rows size.toNatClampNeg ≤ rows := coverLe sizePos
  rw [rangeOf positive small (by omega), if_neg (by omega)]

theorem rangeNext (positive : 0 < size) (small : rows < 2 ^ 63)
    (inside : index + 1 < cover rows size.toNatClampNeg) :
    range? ⟨size, .ofNat index⟩ (.ofNat rows) = some (.ofNat (index * size.toNatClampNeg),
      .ofNat ((index + 1) * size.toNatClampNeg)) := by
  have next := (coverTight (sizeOfPositive positive).2.1).mp inside
  rw [rangeInside positive small (by omega), Nat.succ_mul]
  rw [Nat.succ_mul] at next
  rw [Nat.min_eq_left (by omega)]

theorem rangeLast (positive : 0 < size) (small : rows < 2 ^ 63)
    (last : index + 1 = cover rows size.toNatClampNeg) :
    range? ⟨size, .ofNat index⟩ (.ofNat rows) =
      some (.ofNat (index * size.toNatClampNeg), .ofNat rows) := by
  have reaches : rows ≤ cover rows size.toNatClampNeg * size.toNatClampNeg :=
    coverReaches (sizeOfPositive positive).2.1
  rw [← last, Nat.succ_mul] at reaches
  rw [rangeInside positive small (by omega), Nat.min_eq_right (by omega)]

end

structure Partition (rows size : Int64) : Prop where
  -- Every bound is what it would be in integers of any size.
  unsaturated {index first last : Int64} : 0 ≤ index → range? ⟨size, index⟩ rows = some (first, last) →
    first.toInt = index.toInt * size.toInt ∧ last.toInt = min (first.toInt + size.toInt) rows.toInt
  inside {index : Int64} : 0 ≤ index → index < count rows size →
    ∃ first last, range? ⟨size, index⟩ rows = some (first, last) ∧
      first < last ∧ last.toInt - first.toInt ≤ size.toInt
  behind {index : Int64} : count rows size ≤ index → range? ⟨size, index⟩ rows = none
  begins : 0 < count rows size → ∃ last, range? ⟨size, 0⟩ rows = some (0, last)
  meets {index : Int64} : 0 ≤ index → index.toInt + 1 < (count rows size).toInt →
    ∃ first next last, range? ⟨size, index⟩ rows = some (first, next) ∧
      range? ⟨size, index + 1⟩ rows = some (next, last)
  ends {index : Int64} : 0 ≤ index → index.toInt + 1 = (count rows size).toInt →
    ∃ first, range? ⟨size, index⟩ rows = some (first, rows)
  empty : count rows size = 0 ↔ rows = 0

theorem partition (natural : 0 ≤ rows) (positive : 0 < size) : Partition rows size := by
  obtain ⟨n, small, rfl⟩ := naturalWord natural
  obtain ⟨sizeInt, sizePos, -⟩ := sizeOfPositive positive
  have bounded : cover n size.toNatClampNeg ≤ n := coverLe sizePos
  have counted := countWord positive small
  have countedInt := wordOfNat (n := cover n size.toNatClampNeg) (by omega)
  have zero : (0 : Int64) = .ofNat 0 := rfl
  refine ⟨fun {index first last} chunk range => ?_, fun {index} chunk early => ?_, fun {index} late => ?_,
    fun some => ?_, fun {index} chunk early => ?_, fun {index} chunk final => ?_, ?_⟩
  · obtain ⟨i, word, rfl⟩ := naturalWord chunk
    rw [rangeOf positive small word] at range
    split at range <;> cases range
    rw [wordOfNat (by omega), wordOfNat word, wordOfNat (by omega), wordOfNat small, sizeInt]
    exact ⟨Int.natCast_mul i _, by omega⟩
  · obtain ⟨i, word, rfl⟩ := naturalWord chunk
    rw [counted, wordLt word (by omega)] at early
    have begins := (coverTight sizePos).mp early
    refine ⟨_, _, rangeInside positive small early, ?_, ?_⟩
    · rw [wordLt (by omega) (by omega)]
      omega
    · rw [wordOfNat (by omega), wordOfNat (by omega), sizeInt]
      omega
  · have chunk : 0 ≤ index := Int64.le_trans (by rw [counted]; exact wordNatural (by omega)) late
    obtain ⟨i, word, rfl⟩ := naturalWord chunk
    rw [counted, wordLe (by omega) word] at late
    rw [rangeOf positive small word, if_pos]
    exact Nat.le_of_not_lt fun begins => Nat.not_le.mpr ((coverTight sizePos).mpr begins) late
  · rw [counted, zero, wordLt (by omega) (by omega)] at some
    exact ⟨_, by rw [zero, rangeInside positive small some, Nat.zero_mul]⟩
  · obtain ⟨i, word, rfl⟩ := naturalWord chunk
    rw [counted, countedInt, wordOfNat word] at early
    have next : Int64.ofNat i + 1 = .ofNat (i + 1) := (Int64.ofNat_add i 1).symm
    exact ⟨_, _, _, rangeNext positive small (by omega),
      by rw [next]; exact rangeInside positive small (by omega)⟩
  · obtain ⟨i, word, rfl⟩ := naturalWord chunk
    rw [counted, countedInt, wordOfNat word] at final
    exact ⟨_, rangeLast positive small (by omega)⟩
  · have tight : 0 < cover n size.toNatClampNeg ↔ 0 * size.toNatClampNeg < n := coverTight sizePos
    rw [Nat.zero_mul] at tight
    rw [counted, ← Int64.toInt_inj, ← Int64.toInt_inj, countedInt, wordOfNat small, Int64.toInt_zero]
    omega

theorem partitionsRows (natural : 0 ≤ rows) (positive : 0 < size) :
    Partition rows size ∧
      ∀ (id : MaterializationId) (records : List ResourceRecord), (records.length : Int) = rows.toInt →
        ∀ m, (readEach (Memory.materialization id records) size
          (List.range (count rows size).toNatClampNeg)).on m = (.ok (records.map .ok), m) := by
  refine ⟨partition natural positive, fun id records counted m => ?_⟩
  obtain ⟨n, small, rfl⟩ := naturalWord natural
  rw [wordOfNat small] at counted
  obtain rfl : records.length = n := by omega
  have words : ∀ index ∈ List.range (count (.ofNat records.length) size).toNatClampNeg,
      index < 2 ^ 63 := fun index mem =>
    Nat.lt_trans (List.mem_range.mp mem) (Int64.toNatClampNeg_lt _)
  rw [readEachOn id positive small words, countOf positive small, slicesAll (sizeOfPositive positive).2.1]

/- The greatest number of rows in chunks of `2 ^ 62`: the second one ends at a bound that saturates, and
the index of a third one saturates already. -/
theorem partitionsRowsGreatest :
    let size : Int64 := 4611686018427387904
    let records : List ResourceRecord := [.ofValue "alice" (.int 1), .ofValue "bob" (.int 2),
      .ofValue "carol" (.int 3)]
    Partition .maxValue size ∧ range? ⟨size, 0⟩ .maxValue = some (0, size) ∧
      range? ⟨size, 1⟩ .maxValue = some (size, .maxValue) ∧ range? ⟨size, 2⟩ .maxValue = none ∧
      (readEach (Memory.materialization ⟨"Materialization/clicks/v1"⟩ records) 2 (List.range 2)).on
        .empty = (.ok (records.map .ok), .empty) := by
  intro size records
  have two : count .maxValue size = 2 := by decide
  have one : (1 : Int64).toInt + 1 = (count .maxValue size).toInt := by rw [two]; rfl
  have cut : Partition .maxValue size := (partitionsRows (by decide) (by decide)).1
  obtain ⟨-, reads⟩ := @partitionsRows 3 2 (by decide) (by decide)
  obtain ⟨end0, first⟩ := cut.begins (by rw [two]; decide)
  obtain ⟨begin1, second⟩ := cut.ends (by decide) one
  obtain ⟨-, last0⟩ := cut.unsaturated (by decide) first
  obtain ⟨first1, -⟩ := cut.unsaturated (by decide) second
  have half : size.toInt = 4611686018427387904 := by decide
  have greatest : Int64.maxValue.toInt = 9223372036854775807 := by decide
  have ended : end0 = size := by
    rw [half, greatest, Int64.toInt_zero, Int.zero_add] at last0
    exact Int64.toInt_inj.mp (last0.trans half.symm)
  have began : begin1 = size := by
    rw [Int64.toInt_one, Int.one_mul] at first1
    exact Int64.toInt_inj.mp first1
  rw [ended] at first
  rw [began] at second
  exact ⟨cut, first, second, cut.behind (by rw [two]; decide), reads _ records rfl _⟩

end FeatureStore.Chunk
