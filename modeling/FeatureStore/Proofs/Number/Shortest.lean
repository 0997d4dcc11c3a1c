import FeatureStore.Number.Decimal
import FeatureStore.Proofs.Number.Rounding

/-!
The digits that are written for a double. They stand for a number that is not above the end of the
interval which rounds to the double, and there are few enough of them for a word of 64 bits.
-/
namespace FeatureStore.Decimal
open BinaryFormat (powerQuotient logBounds)

def value (d : Decimal) : ℚ := d.digits * 10 ^ d.exponent

def tenUpToTwo (e l : Int) : Bool :=
  (10 ^ e.toNat * 2 ^ (-l).toNat).ble (2 ^ l.toNat * 10 ^ (-e).toNat)

def twoUpToTen (l e : Int) : Bool :=
  (2 ^ l.toNat * 10 ^ (-e).toNat).ble (10 ^ e.toNat * 2 ^ (-l).toNat)

/- The leading decimal digit by the leading binary one: a little below `log 2 / log 10` of it. -/
def estimate (l : Int) : Int := l * 1233 / 4096

def estimates (l : Int) : Bool :=
  tenUpToTwo (estimate l - 1) l && twoUpToTen (l + 1) (estimate l + 2)

theorem estimatesAll : (List.range 2098).all (fun n => estimates (n - 1074)) = true := by
  decide +kernel

theorem quotientLe {base base' : Nat} (positive : 0 < base) (positive' : 0 < base') (e l : Int) :
    base ^ e.toNat * base' ^ (-l).toNat ≤ base' ^ l.toNat * base ^ (-e).toNat ↔
      (base : ℚ) ^ e ≤ base' ^ l := by
  have power : (0 : ℚ) < (base ^ (-e).toNat : Nat) := by exact_mod_cast Nat.pow_pos positive
  have power' : (0 : ℚ) < (base' ^ (-l).toNat : Nat) := by exact_mod_cast Nat.pow_pos positive'
  rw [powerQuotient base positive, powerQuotient base' positive', div_le_div_iff₀ power power']
  norm_cast

theorem estimateBounds {l : Int} (least : -1074 ≤ l) (most : l < 1024) :
    (10 : ℚ) ^ (estimate l - 1) ≤ 2 ^ l ∧ (2 : ℚ) ^ (l + 1) ≤ 10 ^ (estimate l + 2) := by
  have checked := List.all_eq_true.mp estimatesAll (l + 1074).toNat (List.mem_range.mpr (by omega))
  have same : ((l + 1074).toNat : Int) - 1074 = l := by omega
  rw [same, estimates, Bool.and_eq_true, tenUpToTwo, twoUpToTen, Nat.ble_eq, Nat.ble_eq] at checked
  have low := (quotientLe (by decide) (by decide) _ _).mp checked.1
  have high := (quotientLe (by decide) (by decide) _ _).mp checked.2
  exact ⟨by exact_mod_cast low, by exact_mod_cast high⟩

theorem multipleLe (n a : Nat) {b : Nat} (below : 0 < b) (e : Int) :
    n * (b * Nat.pow 10 e.toNat) ≤ a * Nat.pow 10 (-e).toNat ↔ (n : ℚ) * 10 ^ e ≤ a / b := by
  have size : (0 : ℚ) < b := by exact_mod_cast below
  have power : (0 : ℚ) < (10 ^ (-e).toNat : Nat) := by positivity
  have quotient := powerQuotient 10 (by decide) e
  rw [Nat.cast_ofNat] at quotient
  rw [quotient, ← mul_div_assoc, div_le_div_iff₀ power size, mul_comm b, ← mul_assoc]
  norm_cast

theorem leadingBounds {a k : Nat} (above : 0 < a) (least : (2 : ℚ) ^ (-1074 : Int) ≤ a / (2 ^ k : Nat))
    (most : (a / (2 ^ k : Nat) : ℚ) < 2 ^ (1024 : Int)) :
    (10 : ℚ) ^ leadingExponent a (2 ^ k) ≤ a / (2 ^ k : Nat) ∧
      (a / (2 ^ k : Nat) : ℚ) < 10 ^ (leadingExponent a (2 ^ k) + 1) := by
  have below : 0 < 2 ^ k := Nat.two_pow_pos k
  have power : (0 : ℚ) < (2 ^ k : Nat) := by exact_mod_cast below
  obtain ⟨low, high⟩ := logBounds above
  have lower : (2 : ℚ) ^ ((Nat.log2 a : Int) - k) ≤ a / (2 ^ k : Nat) := by
    rw [le_div_iff₀ power, Nat.cast_pow, Nat.cast_two, ← zpow_natCast 2 k, ← zpow_add₀ two_ne_zero,
      sub_add_cancel]
    exact low
  have upper : (a / (2 ^ k : Nat) : ℚ) < 2 ^ ((Nat.log2 a : Int) - k + 1) := by
    rw [div_lt_iff₀ power, Nat.cast_pow, Nat.cast_two, ← zpow_natCast 2 k, ← zpow_add₀ two_ne_zero]
    have same : (Nat.log2 a : Int) - k + 1 + k = Nat.log2 a + 1 := by ring
    rwa [same]
  have leastLog := (zpow_lt_zpow_iff_right₀ one_lt_two).mp (least.trans_lt upper)
  have mostLog := (zpow_lt_zpow_iff_right₀ one_lt_two).mp (lower.trans_lt most)
  obtain ⟨under, beyond⟩ := estimateBounds (l := (Nat.log2 a : Int) - k) (by omega) (by omega)
  unfold leadingExponent
  extract_lets guess reaches
  have guessed : guess = estimate ((Nat.log2 a : Int) - k) := by
    simp only [guess, Nat.log2_two_pow, estimate]
  have reach (e : Int) : reaches e = true ↔ (10 : ℚ) ^ e ≤ a / (2 ^ k : Nat) := by
    have single := multipleLe 1 a below e
    rw [one_mul, Nat.cast_one, one_mul] at single
    rw [← single]
    exact decide_eq_true_iff
  rw [← guessed] at under beyond
  -- The guess is at most one off, and the exponents next to it are tried.
  split
  · rename_i next
    refine ⟨(reach _).mp next, ?_⟩
    rw [add_assoc]
    exact upper.trans_le beyond
  rename_i next
  split
  · rename_i here
    exact ⟨(reach _).mp here, not_le.mp (mt (reach _).mpr next)⟩
  · rename_i here
    rw [sub_add_cancel]
    exact ⟨under.trans lower, not_le.mp (mt (reach _).mpr here)⟩

namespace Interval

theorem exactWeight (m : Nat) (q : Int) :
    ((ofBinary m q).exact / (ofBinary m q).unit : ℚ) = weight m q := by
  have quarter := powerQuotient 2 two_pos (q - 2)
  have swapped : -(q - 2) = 2 - q := by ring
  have shift : q = q - 2 + 1 + 1 := by ring
  rw [Nat.cast_two, swapped] at quarter
  conv_rhs => rw [shift, weightCarry, weightCarry, weight, quarter]
  simp only [ofBinary, Nat.pow_eq]
  push_cast
  ring

theorem highWeight (m : Nat) (q : Int) :
    ((ofBinary m q).high / (ofBinary m q).unit : ℚ) = weight (2 * m + 1) (q - 1) := by
  have quarter := powerQuotient 2 two_pos (q - 2)
  have swapped : -(q - 2) = 2 - q := by ring
  have shift : q - 1 = q - 2 + 1 := by ring
  rw [Nat.cast_two, swapped] at quarter
  rw [shift, weightCarry, weight, quarter]
  simp only [ofBinary, Nat.pow_eq]
  push_cast
  ring

variable {i : Interval} {e : Int}

theorem gridFloor (unit : 0 < i.unit) :
    ((i.exact * Nat.pow 10 (-e).toNat / (i.unit * Nat.pow 10 e.toNat) : Nat) : ℚ) * 10 ^ e ≤
        i.exact / i.unit ∧
      (i.exact / i.unit : ℚ) <
        ((i.exact * Nat.pow 10 (-e).toNat / (i.unit * Nat.pow 10 e.toNat) + 1 : Nat) : ℚ) * 10 ^ e := by
  have step : 0 < i.unit * Nat.pow 10 e.toNat := Nat.mul_pos unit (Nat.pow_pos (by decide))
  constructor
  · rw [← multipleLe _ _ unit]
    exact Nat.div_mul_le_self _ _
  · rw [← not_le, ← multipleLe _ _ unit, not_le]
    exact (Nat.lt_mul_div_succ _ step).trans_eq (Nat.mul_comm _ _)

theorem onGridPoint {d : Nat} (found : i.onGrid e = some d) :
    d = i.exact * Nat.pow 10 (-e).toNat / (i.unit * Nat.pow 10 e.toNat) ∨
      (d = i.exact * Nat.pow 10 (-e).toNat / (i.unit * Nat.pow 10 e.toNat) + 1 ∧
        d * (i.unit * Nat.pow 10 e.toNat) ≤ i.high * Nat.pow 10 (-e).toNat) := by
  unfold onGrid at found
  extract_lets up step floor below above lowFits highFits down rise at found
  have rises (fits : highFits) : (floor + 1) * step ≤ i.high * up := by
    have within : above ≤ i.high * up := by
      simp only [highFits] at fits
      split at fits
      · exact fits
      · exact fits.le
    rw [Nat.succ_mul]
    exact within
  split at found
  · rename_i both
    split at found <;> rw [← Option.some.inj found]
    · exact .inl rfl
    · exact .inr ⟨rfl, rises both.2⟩
  split at found
  · rw [← Option.some.inj found]
    exact .inl rfl
  split at found
  · rename_i fits
    rw [← Option.some.inj found]
    exact .inr ⟨rfl, rises fits⟩
  · cases found

theorem gridDigits {lead : Int} (places : Nat) (unit : 0 < i.unit)
    (least : (10 : ℚ) ^ lead ≤ i.exact / i.unit) (most : (i.exact / i.unit : ℚ) < 10 ^ (lead + 1))
    (below : e ≤ lead) (near : lead - places ≤ e) :
    0 < i.exact * Nat.pow 10 (-e).toNat / (i.unit * Nat.pow 10 e.toNat) ∧
      i.exact * Nat.pow 10 (-e).toNat / (i.unit * Nat.pow 10 e.toNat) < 10 ^ (places + 1) := by
  obtain ⟨floor, ceiling⟩ := gridFloor unit (e := e)
  generalize i.exact * Nat.pow 10 (-e).toNat / (i.unit * Nat.pow 10 e.toNat) = d at floor ceiling ⊢
  have ten : (1 : ℚ) < 10 := by norm_num
  have power : (0 : ℚ) < 10 ^ e := by positivity
  constructor
  · rcases Nat.eq_zero_or_pos d with rfl | positive
    · have reached : (10 : ℚ) ^ e ≤ 10 ^ lead := (zpow_le_zpow_iff_right₀ ten).mpr below
      rw [zero_add, Nat.cast_one, one_mul] at ceiling
      exact absurd (reached.trans least) (not_le.mpr ceiling)
    · exact positive
  · have widest : (10 : ℚ) ^ (lead + 1) ≤ 10 ^ (places + 1) * 10 ^ e := by
      rw [← zpow_natCast, ← zpow_add₀ (by norm_num)]
      exact (zpow_le_zpow_iff_right₀ ten).mpr (by omega)
    have less := lt_of_mul_lt_mul_right ((floor.trans_lt most).trans_le widest) power.le
    exact_mod_cast less

structure Fits (i : Interval) (d : Decimal) : Prop where
  positive : 0 < d.digits
  few : d.digits ≤ 10 ^ 19
  under : d.value ≤ i.high / i.unit

theorem firstGridFits {lead : Int} (unit : 0 < i.unit) (high : i.exact ≤ i.high)
    (least : (10 : ℚ) ^ lead ≤ i.exact / i.unit) (most : (i.exact / i.unit : ℚ) < 10 ^ (lead + 1))
    (fuel : Nat) (below : e ≤ lead) (near : lead - 18 ≤ e - fuel) : i.Fits (i.firstGrid fuel e) := by
  have size : (0 : ℚ) < i.unit := by exact_mod_cast unit
  have inside : (i.exact / i.unit : ℚ) ≤ i.high / i.unit := by gcongr
  induction fuel generalizing e with
  | zero =>
    obtain ⟨positive, few⟩ := gridDigits 18 unit least most below (by simpa using near)
    exact ⟨positive, few.le, (gridFloor unit).1.trans inside⟩
  | succ fuel ih =>
    rw [firstGrid]
    cases found : i.onGrid e with
    | none => exact ih (by omega) (by omega)
    | some d =>
      obtain ⟨positive, few⟩ := gridDigits 17 unit least most below (by omega)
      rcases onGridPoint found with rfl | ⟨rfl, fits⟩
      · exact ⟨positive, few.le.trans (by norm_num), (gridFloor unit).1.trans inside⟩
      · exact ⟨Nat.succ_pos _, few.trans (by norm_num), (multipleLe _ _ unit e).mp fits⟩

end Interval

theorem normalizeKeeps (fuel : Nat) {d : Decimal} (positive : 0 < d.digits) :
    0 < (normalize fuel d).digits ∧ (normalize fuel d).digits ≤ d.digits ∧
      (normalize fuel d).value = d.value := by
  induction fuel generalizing d with
  | zero => exact ⟨positive, le_rfl, rfl⟩
  | succ fuel ih =>
    rw [normalize]
    split
    · rename_i divides
      obtain ⟨more, less, same⟩ := ih (d := ⟨d.digits / 10, d.exponent + 1⟩) (by dsimp only; omega)
      refine ⟨more, less.trans (Nat.div_le_self _ _), same.trans ?_⟩
      have whole : d.digits = d.digits / 10 * 10 := by omega
      rw [value, value, zpow_add_one₀ (by norm_num)]
      conv_rhs => rw [whole]
      push_cast
      ring
    · exact ⟨positive, le_rfl, rfl⟩

theorem shortestFits {m : Nat} {q : Int} (positive : 0 < m) (most : m < 2 ^ 53) (least : -1074 ≤ q)
    (greatest : q ≤ 971) : 0 < (shortest m q).digits ∧ (shortest m q).digits ≤ 10 ^ 19 ∧
      (shortest m q).value ≤ weight (2 * m + 1) (q - 1) := by
  have unit : (Interval.ofBinary m q).unit = 2 ^ (2 - q).toNat := rfl
  have above : 0 < (Interval.ofBinary m q).exact := by
    simp only [Interval.ofBinary, Nat.pow_eq]
    positivity
  have exact := Interval.exactWeight m q
  have low : (2 : ℚ) ^ (-1074 : Int) ≤ weight m q := by
    have one : weight 1 (-1074) = 2 ^ (-1074 : Int) := weightPower 0 (-1074)
    rw [← one]
    exact weightMono positive least
  have high : weight m q < 2 ^ (1024 : Int) := by
    have top : weight (2 ^ 53) 971 = 2 ^ (1024 : Int) := weightPower 53 971
    rw [← top]
    exact (weightLt most).trans_le (weightMono le_rfl greatest)
  rw [← exact, unit] at low high
  obtain ⟨lower, upper⟩ := leadingBounds above low high
  rw [← unit] at lower upper
  have inside : (Interval.ofBinary m q).exact ≤ (Interval.ofBinary m q).high :=
    Nat.mul_le_mul_right _ (by omega)
  have fits := Interval.firstGridFits (unit ▸ Nat.two_pow_pos _) inside lower upper 18 le_rfl (by omega)
  obtain ⟨more, less, same⟩ := normalizeKeeps 20 fits.positive
  refine ⟨more, less.trans fits.few, same.le.trans ?_⟩
  rw [← Interval.highWeight]
  exact fits.under

/- The most digits that are written before a power of ten. The greatest double has more of them than
the numbers that round to the double below it. -/
def mostDigits (power : Nat) : Nat :=
  if power ≤ 289 then 10 ^ 19
  else if power = 292 then 17976931348623157 else (2 ^ 54 - 3) * 2 ^ 970 / 10 ^ power

theorem endBelow : (2 ^ 54 - 3) * 2 ^ 970 < 10 ^ (292 + 17) := by
  obtain ⟨-, high⟩ := Binary64.belowGreatest
  rw [pow_add]
  generalize 10 ^ 292 = unit at high ⊢
  generalize 2 ^ 970 = last at high ⊢
  omega

theorem mostDigitsFew (power : Nat) : mostDigits power ≤ 10 ^ 19 := by
  rw [mostDigits]
  split
  · exact le_rfl
  split
  · norm_num
  · rename_i high _
    refine Nat.div_le_of_le_mul ?_
    calc (2 ^ 54 - 3) * 2 ^ 970 ≤ 10 ^ (290 + 19) := endBelow.le
      _ = 10 ^ 290 * 10 ^ 19 := pow_add 10 290 19
      _ ≤ 10 ^ power * 10 ^ 19 := Nat.mul_le_mul_right _ (pow_le_pow_right₀ (by decide) (by omega))

theorem shortestGreatest : shortest (2 ^ 53 - 1) 971 = ⟨17976931348623157, 292⟩ := by
  decide +kernel

theorem shortestMost {m power : Nat} {q : Int} (positive : 0 < m) (most : m < 2 ^ 53) (least : -1074 ≤ q)
    (greatest : q ≤ 971) (written : (shortest m q).exponent = power) :
    power ≤ 308 ∧ (shortest m q).digits ≤ mostDigits power := by
  by_cases last : m = 2 ^ 53 - 1 ∧ q = 971
  · obtain ⟨rfl, rfl⟩ := last
    rw [shortestGreatest] at written ⊢
    obtain rfl : 292 = power := Int.ofNat.inj written
    exact ⟨by norm_num, le_rfl⟩
  obtain ⟨some, few, under⟩ := shortestFits positive most least greatest
  have top : weight (2 * m + 1) (q - 1) ≤ weight (2 ^ 54 - 3) 970 := by
    rcases eq_or_lt_of_le greatest with rfl | less
    · exact weightMono (by omega) le_rfl
    · rw [show (970 : Int) = 969 + 1 from rfl, weightCarry]
      exact weightMono (by omega) (by omega)
  have product : (shortest m q).digits * 10 ^ power ≤ (2 ^ 54 - 3) * 2 ^ 970 := by
    have product := under.trans top
    rw [value, written, zpow_natCast, show (970 : Int) = (970 : Nat) from rfl, weightNat] at product
    exact Nat.cast_le.mp (le_of_eq_of_le (by push_cast; rfl) product)
  have held : power ≤ 308 := by
    by_contra more
    have longer : 10 ^ (292 + 17) ≤ 10 ^ power := pow_le_pow_right₀ (by decide) (by omega)
    have least : 10 ^ power ≤ (shortest m q).digits * 10 ^ power := Nat.le_mul_of_pos_left _ some
    exact absurd ((longer.trans least).trans product) (not_le.mpr endBelow)
  refine ⟨held, ?_⟩
  rw [mostDigits]
  split
  · exact few
  split
  · rename_i same
    rw [same] at product
    have less := product.trans_lt Binary64.belowGreatest.2
    generalize 10 ^ 292 = unit at less
    exact Nat.lt_succ_iff.mp (Nat.lt_of_mul_lt_mul_right less)
  · exact (Nat.le_div_iff_mul_le (Nat.pow_pos (by decide))).mpr product

theorem mostDigitsFinite :
    (List.range 20).all (fun n =>
      ((Binary64.ofNat (mostDigits (289 + n))).timesPowerOfTen (289 + n)).isFinite) = true := by
  decide +kernel

theorem writtenFinite {digits power : Nat} (positive : 0 < digits) (held : power ≤ 308)
    (few : digits ≤ mostDigits power) :
    ((Binary64.ofNat digits).timesPowerOfTen power).isFinite = true := by
  obtain ⟨n, above, lower, fewer⟩ : ∃ n < 20, power ≤ 289 + n ∧ digits ≤ mostDigits (289 + n) := by
    rcases Nat.le_total power 289 with low | high
    · have all : mostDigits 289 = 10 ^ 19 := if_pos le_rfl
      exact ⟨0, by decide, low, all ▸ few.trans (mostDigitsFew power)⟩
    · obtain ⟨n, rfl⟩ := Nat.exists_eq_add_of_le high
      exact ⟨n, by omega, le_rfl, few⟩
  have inside : (mostDigits (289 + n) : ℚ) < Binary64.threshold := by
    have word : (mostDigits (289 + n) : ℚ) ≤ (10 ^ 19 : Nat) := Nat.cast_le.mpr (mostDigitsFew _)
    exact word.trans_lt (Binary64.tenInside (by norm_num))
  have finite := (Binary64.ofNatRounded (positive.trans_le fewer) inside).1
  have finite' := (Binary64.ofNatRounded positive ((Nat.cast_le.mpr fewer).trans_lt inside)).1
  refine Binary64.timesFewer finite' finite (by omega) lower (Binary64.ofNatMono positive fewer inside) ?_
  exact List.all_eq_true.mp mostDigitsFinite n (List.mem_range.mpr above)

end FeatureStore.Decimal
