import FeatureStore.Job.Chunk
import Mathlib.Algebra.Group.Nat.Defs

/-!
The arithmetic of chunks in natural numbers. Words of 64 bits stop at their bounds, but no bound is
reached as long as the number of rows is itself a word: the chunks cut the rows into consecutive
slices and nothing is lost, doubled or moved.
-/
namespace FeatureStore

theorem saturateWithin {n : Int} (low : -9223372036854775808 ≤ n) (high : n < 9223372036854775808) :
    (saturate n).toInt = n := by
  unfold saturate
  rw [if_neg (by omega), if_neg (by omega)]
  exact Int64.toInt_ofInt_of_le low high

theorem saturateAbove {n : Int} (high : 9223372036854775808 ≤ n) :
    (saturate n).toInt = 9223372036854775807 := by
  unfold saturate
  rw [if_neg (by omega), if_pos high]
  rfl

namespace Chunk

def slice (size index : Nat) (rows : List α) : List α := (rows.drop (index * size)).take size

def cover (rows size : Nat) : Nat := (rows + size - 1) / size

theorem coverReaches {rows size : Nat} (positive : 0 < size) : rows ≤ cover rows size * size := by
  unfold cover
  have whole := Nat.div_add_mod (rows + size - 1) size
  have part := Nat.mod_lt (rows + size - 1) positive
  rw [Nat.mul_comm] at whole
  omega

theorem coverTight {rows size index : Nat} (positive : 0 < size) :
    index < cover rows size ↔ index * size < rows := by
  unfold cover
  rw [← Nat.succ_le_iff, Nat.le_div_iff_mul_le positive, Nat.succ_mul]
  omega

theorem slicesUpTo (size count : Nat) (rows : List α) :
    (List.range count).flatMap (fun index => slice size index rows) = rows.take (count * size) := by
  induction count with
  | zero => simp
  | succ count ih =>
    rw [List.range_succ, List.flatMap_append, ih, Nat.succ_mul, List.take_add]
    simp [slice]

theorem slicesAll {size : Nat} (positive : 0 < size) (rows : List α) :
    (List.range (cover rows.length size)).flatMap (fun index => slice size index rows) = rows := by
  rw [slicesUpTo]
  exact List.take_of_length_le (coverReaches positive)

theorem wordOfNat {n : Nat} (small : n < 2 ^ 63) : (Int64.ofNat n).toInt = n :=
  Int64.toInt_ofNat_of_lt small

theorem sizeOfPositive {size : Int64} (positive : 0 < size) :
    size.toInt = size.toNatClampNeg ∧ 0 < size.toNatClampNeg ∧ size.toNatClampNeg < 2 ^ 63 :=
  ⟨Int64.toInt_eq_toNatClampNeg (Int64.le_of_lt positive), (Int64.toNatClampNeg_pos_iff size).mpr positive,
    Int64.toNatClampNeg_lt size⟩

theorem coverOfDiv {rows size : Nat} (positive : 0 < size) :
    cover rows size = rows / size + if rows % size = 0 then 0 else 1 := by
  have whole := Nat.div_add_mod rows size
  have part := Nat.mod_lt rows positive
  have next (q : Nat) : size * (q + 1) = size * q + size := Nat.mul_succ size q
  unfold cover
  split
  · refine Nat.div_eq_of_lt_le ?_ ?_ <;> rw [Nat.mul_comm _ size]
    · rw [Nat.add_zero]; omega
    · rw [Nat.add_zero, next]; omega
  · refine Nat.div_eq_of_lt_le ?_ ?_ <;> rw [Nat.mul_comm _ size]
    · rw [next]; omega
    · rw [next, next]; omega

theorem coverLe {rows size : Nat} (positive : 0 < size) : cover rows size ≤ rows := by
  unfold cover
  refine Nat.lt_succ_iff.mp ((Nat.div_lt_iff_lt_mul positive).mpr ?_)
  have grows : rows * 1 ≤ rows * size := Nat.mul_le_mul_left rows positive
  rw [Nat.succ_mul]
  omega

theorem countWord {size : Int64} (positive : 0 < size) {rows : Nat} (small : rows < 2 ^ 63) :
    count (.ofNat rows) size = .ofNat (cover rows size.toNatClampNeg) := by
  obtain ⟨sizeInt, sizePos, -⟩ := sizeOfPositive positive
  have rowsInt := wordOfNat small
  have notLeast : Int64.ofNat rows ≠ Int64.minValue := by
    intro same
    have := congrArg Int64.toInt same
    rw [rowsInt, Int64.toInt_minValue] at this
    omega
  have quotient : (Int64.ofNat rows / size).toInt = (rows / size.toNatClampNeg : Nat) := by
    rw [Int64.toInt_div_of_ne_left _ _ notLeast, rowsInt, sizeInt, Int.ofNat_tdiv]
  have remainder : (Int64.ofNat rows % size = 0) = (rows % size.toNatClampNeg = 0) := by
    rw [← Int64.toInt_inj, Int64.toInt_mod, rowsInt, sizeInt, ← Int.ofNat_tmod, Int64.toInt_zero,
      Int.natCast_eq_zero]
  have bounded : cover rows size.toNatClampNeg ≤ rows := coverLe sizePos
  apply Int64.toInt_inj.mp
  rw [wordOfNat (by omega)]
  rw [coverOfDiv sizePos] at bounded ⊢
  unfold count
  by_cases none : Int64.ofNat rows ≤ 0
  · have zero : rows = 0 := by
      rw [Int64.le_iff_toInt_le, rowsInt] at none
      simpa using none
    simp [zero]
  · have sizeNot : ¬ size ≤ 0 := Int64.not_le.mpr positive
    simp only [none, sizeNot, decide_false, Bool.or_self, Bool.false_eq_true, if_false, remainder]
    rw [Int64.toInt_add, quotient]
    generalize rows / size.toNatClampNeg = whole at bounded ⊢
    split
    · rw [if_pos ‹_›] at bounded
      rw [Int64.toInt_zero, Int.add_zero, Int.bmod_eq_of_le (by omega) (by omega)]
      omega
    · rw [if_neg ‹_›] at bounded
      rw [Int64.toInt_one, Int.bmod_eq_of_le (by omega) (by omega)]
      omega

theorem countOf {size : Int64} (positive : 0 < size) {rows : Nat} (small : rows < 2 ^ 63) :
    (count (.ofNat rows) size).toNatClampNeg = cover rows size.toNatClampNeg := by
  have bounded : cover rows size.toNatClampNeg ≤ rows := coverLe (sizeOfPositive positive).2.1
  rw [countWord positive small, Int64.toNatClampNeg_ofNat_of_lt (by omega)]

theorem wordLe {a b : Nat} (ha : a < 2 ^ 63) (hb : b < 2 ^ 63) :
    Int64.ofNat a ≤ Int64.ofNat b ↔ a ≤ b := by
  rw [Int64.le_iff_toInt_le, wordOfNat ha, wordOfNat hb, Int.ofNat_le]

theorem wordLt {a b : Nat} (ha : a < 2 ^ 63) (hb : b < 2 ^ 63) :
    Int64.ofNat a < Int64.ofNat b ↔ a < b := by
  rw [Int64.lt_iff_toInt_lt, wordOfNat ha, wordOfNat hb, Int.ofNat_lt]

theorem wordNatural {n : Nat} (small : n < 2 ^ 63) : 0 ≤ Int64.ofNat n :=
  (wordLe (Nat.two_pow_pos 63) small).mpr (Nat.zero_le n)

theorem naturalWord {w : Int64} (natural : 0 ≤ w) : ∃ n, n < 2 ^ 63 ∧ w = .ofNat n :=
  ⟨w.toNatClampNeg, Int64.toNatClampNeg_lt w, (Int64.ofNat_toNatClampNeg w natural).symm⟩

theorem wordOfSaturated {n : Nat} (small : n < 2 ^ 63) : saturate n = .ofNat n := by
  apply Int64.toInt_inj.mp
  rw [saturateWithin (by omega) (by omega), wordOfNat small]

/- A bound that saturates lies beyond every row, so that the end of the rows comes first. -/
theorem minSaturated (first size : Nat) {rows : Nat} (small : rows < 2 ^ 63) (begins : first < rows) :
    min (saturate ((Int64.ofNat first).toInt + size)) (.ofNat rows) = .ofNat (min (first + size) rows) := by
  have firstInt := wordOfNat (Nat.lt_trans begins small)
  rw [firstInt, ← Int.natCast_add]
  have unfolded (a b : Int64) : min a b = if a ≤ b then a else b := rfl
  rw [unfolded]
  by_cases fits : first + size < 2 ^ 63
  · simp only [wordOfSaturated fits, wordLe fits small]
    split
    · rw [Nat.min_eq_left ‹_›]
    · rw [Nat.min_eq_right (by omega)]
  · have capped := saturateAbove (n := (first + size : Nat)) (by omega)
    have rowsInt := wordOfNat small
    rw [Nat.min_eq_right (by omega)]
    split
    · rename_i below
      rw [Int64.le_iff_toInt_le, capped, rowsInt] at below
      apply Int64.toInt_inj.mp
      rw [capped, rowsInt]
      omega
    · rfl

theorem rangeOf {size : Int64} (positive : 0 < size) {rows index : Nat} (small : rows < 2 ^ 63)
    (word : index < 2 ^ 63) :
    range? ⟨size, .ofNat index⟩ (.ofNat rows) =
      if rows ≤ index * size.toNatClampNeg then none
      else some (.ofNat (index * size.toNatClampNeg),
        .ofNat (min (index * size.toNatClampNeg + size.toNatClampNeg) rows)) := by
  obtain ⟨sizeInt, -, -⟩ := sizeOfPositive positive
  simp only [range?, wordOfNat word, sizeInt, ← Int.natCast_mul]
  by_cases fits : index * size.toNatClampNeg < 2 ^ 63
  · simp only [wordOfSaturated fits, wordLe small fits]
    split
    · rfl
    · rw [minSaturated _ _ small (by omega)]
  · rw [if_pos, if_pos (by omega)]
    rw [Int64.le_iff_toInt_le, saturateAbove (by omega), wordOfNat small]
    omega

end Chunk
end FeatureStore
