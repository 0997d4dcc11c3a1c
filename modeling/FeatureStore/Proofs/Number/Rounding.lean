import FeatureStore.Number.Binary64
import Mathlib.Algebra.Order.Field.Power
import Mathlib.Data.Rat.Cast.Order
import Mathlib.Tactic.FieldSimp
import Mathlib.Tactic.GCongr
import Mathlib.Tactic.Linarith
import Mathlib.Tactic.NormNum
import Mathlib.Tactic.Positivity
import Mathlib.Tactic.Ring

/-!
Rounding a quotient, measured by rationals. It gives the nearest multiple of the power of two that the
size of the quotient calls for, so it never goes down as the quotient goes up; a double is finite as
long as the quotient stays below the middle between the greatest one and the next power of two.
-/
namespace FeatureStore

def weight (significand : Nat) (exponent : Int) : ℚ := significand * 2 ^ exponent

theorem weightLt {m n : Nat} {q : Int} (less : m < n) : weight m q < weight n q := by
  rw [weight, weight]
  gcongr

theorem weightMono {m n : Nat} {q r : Int} (digits : m ≤ n) (exponent : q ≤ r) :
    weight m q ≤ weight n r := by
  have powers : (2 : ℚ) ^ q ≤ 2 ^ r := zpow_le_zpow_right₀ one_le_two exponent
  rw [weight, weight]
  gcongr

theorem weightPower (k : Nat) (q : Int) : weight (2 ^ k) q = 2 ^ (q + k) := by
  rw [weight, Nat.cast_pow, Nat.cast_two, ← zpow_natCast, ← zpow_add₀ two_ne_zero, add_comm]

theorem weightNat (m k : Nat) : weight m k = (m * 2 ^ k : Nat) := by
  rw [weight, zpow_natCast]
  push_cast
  rfl

theorem weightCarry (m : Nat) (q : Int) : weight m (q + 1) = weight (2 * m) q := by
  rw [weight, weight, zpow_add_one₀ two_ne_zero]
  push_cast
  ring

namespace BinaryFormat

def RoundsUpTo (n : Nat) (x : ℚ) : Prop := x < n + 1 / 2 ∨ (x = n + 1 / 2 ∧ n % 2 = 0)

theorem RoundsUpTo.below {n : Nat} {x y : ℚ} (le : x ≤ y) (above : RoundsUpTo n y) : RoundsUpTo n x := by
  rcases above with less | ⟨half, even⟩
  · exact .inl (lt_of_le_of_lt le less)
  · rcases lt_or_eq_of_le (le.trans half.le) with less | same
    · exact .inl less
    · exact .inr ⟨same, even⟩

theorem roundDivUpTo (a n : Nat) {b : Nat} (positive : 0 < b) :
    roundDiv a b ≤ n ↔ 2 * a < (2 * n + 1) * b ∨ (2 * a = (2 * n + 1) * b ∧ n % 2 = 0) := by
  have divided := Nat.div_add_mod a b
  have small := Nat.mod_lt a positive
  have doubled : (2 * n + 1) * b = 2 * (b * n) + b := by ring
  rw [doubled]
  unfold roundDiv
  generalize a / b = q at divided ⊢
  generalize a % b = r at divided small ⊢
  dsimp only
  rcases Nat.lt_trichotomy q n with lower | rfl | higher
  · have step : b * (q + 1) ≤ b * n := Nat.mul_le_mul_left b lower
    rw [Nat.mul_succ] at step
    split_ifs <;> omega
  · split_ifs <;> omega
  · have step : b * (n + 1) ≤ b * q := Nat.mul_le_mul_left b higher
    rw [Nat.mul_succ] at step
    split_ifs <;> omega

theorem roundDivLe (a n : Nat) {b : Nat} (positive : 0 < b) :
    roundDiv a b ≤ n ↔ RoundsUpTo n (a / b) := by
  have size : (0 : ℚ) < b := by exact_mod_cast positive
  have middle : ((n : ℚ) + 1 / 2) * b = ((2 * n + 1) * b : Nat) / 2 := by push_cast; ring
  have twice : (a : ℚ) = (2 * a : Nat) / 2 := by push_cast; ring
  have halves (c d : Nat) : ((c : ℚ) / 2 < d / 2 ↔ c < d) ∧ ((c : ℚ) / 2 = d / 2 ↔ c = d) :=
    ⟨by rw [div_lt_div_iff_of_pos_right (by norm_num)]; exact Nat.cast_lt,
      by rw [div_left_inj' (by norm_num)]; exact Nat.cast_inj⟩
  rw [roundDivUpTo a n positive, RoundsUpTo, div_lt_iff₀ size, div_eq_iff size.ne', middle, twice,
    (halves _ _).1, (halves _ _).2]

theorem logBounds {n : Nat} (positive : 0 < n) :
    (2 : ℚ) ^ (Nat.log2 n : Int) ≤ n ∧ (n : ℚ) < 2 ^ ((Nat.log2 n : Int) + 1) := by
  constructor
  · have low := Nat.log2_self_le positive.ne'
    rw [zpow_natCast]
    exact_mod_cast low
  · have high := Nat.lt_log2_self (n := n)
    rw [← Nat.cast_succ, zpow_natCast]
    exact_mod_cast high

theorem powerQuotient (base : Nat) (positive : 0 < base) (e : Int) :
    (base : ℚ) ^ e = (base ^ e.toNat : Nat) / (base ^ (-e).toNat : Nat) := by
  have nonzero : (base : ℚ) ≠ 0 := by exact_mod_cast positive.ne'
  have split : e = (e.toNat : Int) - ((-e).toNat : Int) := by omega
  conv_lhs => rw [split]
  rw [zpow_sub₀ nonzero, zpow_natCast, zpow_natCast]
  push_cast
  rfl

variable (f : BinaryFormat) {a b : Nat}

structure Spans (x : ℚ) (q : Int) : Prop where
  least : f.leastExponent ≤ q
  upper : x < 2 ^ (q + f.precision)
  lower : f.leastExponent < q → 2 ^ (q + f.precision - 1) ≤ x

theorem spansAt {x : ℚ} {q : Int} (upper : x < 2 ^ (q + f.precision))
    (lower : 2 ^ (q + f.precision - 1) ≤ x) : f.Spans x (max q f.leastExponent) where
  least := le_max_right ..
  upper := upper.trans_le (zpow_le_zpow_right₀ one_le_two (by omega))
  lower free := by
    have same : max q f.leastExponent = q := by omega
    rwa [same]

theorem shortIff (below : 0 < b) (guess : Int) (width : Nat) :
    (if 0 ≤ guess then a < b * Nat.pow 2 (guess.toNat + width)
      else a * Nat.pow 2 (-guess).toNat < b * Nat.pow 2 width) ↔
      (a / b : ℚ) < 2 ^ (guess + width) := by
  have size : (0 : ℚ) < b := by exact_mod_cast below
  rw [div_lt_iff₀ size]
  split
  · rename_i up
    obtain ⟨k, rfl⟩ := Int.eq_ofNat_of_zero_le up
    rw [← Nat.cast_add, zpow_natCast, mul_comm]
    exact_mod_cast Iff.rfl
  · rename_i down
    obtain ⟨k, rfl⟩ : ∃ k : Nat, guess = -k := ⟨(-guess).toNat, by omega⟩
    have power : (0 : ℚ) < 2 ^ k := by positivity
    rw [neg_neg, Int.toNat_natCast, zpow_add₀ two_ne_zero, zpow_neg, zpow_natCast, zpow_natCast,
      inv_mul_eq_div, div_mul_eq_mul_div, lt_div_iff₀ power, mul_comm (2 ^ width : ℚ)]
    exact_mod_cast Iff.rfl

theorem lastExponentSpans (precise : 0 < f.precision) (above : 0 < a) (below : 0 < b) :
    f.Spans (a / b) (f.lastExponent a b) := by
  have size : (0 : ℚ) < b := by exact_mod_cast below
  obtain ⟨aLow, aHigh⟩ := logBounds above
  obtain ⟨bLow, bHigh⟩ := logBounds below
  have upper : (a / b : ℚ) < 2 ^ ((Nat.log2 a : Int) - Nat.log2 b + 1) := by
    rw [div_lt_iff₀ size]
    calc (a : ℚ) < 2 ^ ((Nat.log2 a : Int) + 1) := aHigh
      _ = 2 ^ ((Nat.log2 a : Int) - Nat.log2 b + 1) * 2 ^ (Nat.log2 b : Int) := by
        rw [← zpow_add₀ two_ne_zero]; congr 1; ring
      _ ≤ _ := by gcongr
  have lower : (2 : ℚ) ^ ((Nat.log2 a : Int) - Nat.log2 b - 1) ≤ a / b := by
    rw [le_div_iff₀ size]
    calc (2 : ℚ) ^ ((Nat.log2 a : Int) - Nat.log2 b - 1) * b
        ≤ 2 ^ ((Nat.log2 a : Int) - Nat.log2 b - 1) * 2 ^ ((Nat.log2 b : Int) + 1) := by gcongr
      _ = 2 ^ (Nat.log2 a : Int) := by rw [← zpow_add₀ two_ne_zero]; congr 1; ring
      _ ≤ a := aLow
  unfold lastExponent
  extract_lets guess short
  have width : guess + f.precision - 1 = guess + (f.precision - 1 : Nat) := by omega
  have shorter : short ↔ (a / b : ℚ) < 2 ^ (guess + f.precision - 1) := by
    rw [width]
    exact shortIff below guess (f.precision - 1)
  have leading : (Nat.log2 a : Int) - Nat.log2 b = guess + f.precision - 1 := by omega
  rw [leading] at upper lower
  split
  · rename_i fits
    have shift : guess - 1 + f.precision = guess + f.precision - 1 := by ring
    exact f.spansAt (shift ▸ shorter.mp fits) (shift ▸ lower)
  · rename_i exceeds
    rw [sub_add_cancel] at upper
    exact f.spansAt upper (not_lt.mp (mt shorter.mpr exceeds))

theorem roundExponent : (f.round a b).2 = f.lastExponent a b := by
  unfold round
  extract_lets q
  split <;> rfl

theorem roundUpTo (below : 0 < b) (n : Nat) :
    (f.round a b).1 ≤ n ↔ RoundsUpTo n (a / b / 2 ^ f.lastExponent a b) := by
  have scaled := powerQuotient 2 two_pos (f.lastExponent a b)
  rw [Nat.cast_two] at scaled
  rw [scaled]
  unfold round
  extract_lets q
  split
  · rename_i up
    have positive : 0 < b * 2 ^ q.toNat := by positivity
    have none : (-q).toNat = 0 := by omega
    refine (roundDivLe a n positive).trans ?_
    rw [none, pow_zero, Nat.cast_one, div_one, div_div, Nat.cast_mul]
  · rename_i down
    have none : q.toNat = 0 := by omega
    refine (roundDivLe _ n below).trans ?_
    rw [none, pow_zero, Nat.cast_one, one_div, div_inv_eq_mul, div_mul_eq_mul_div, ← Nat.cast_mul]
    exact Iff.rfl

variable {f}

theorem roundMost (precise : 0 < f.precision) (above : 0 < a) (below : 0 < b) :
    (f.round a b).1 ≤ 2 ^ f.precision := by
  have spans := f.lastExponentSpans precise above below
  rw [f.roundUpTo below]
  left
  have power : (0 : ℚ) < 2 ^ f.lastExponent a b := by positivity
  have upper : (a / b / 2 ^ f.lastExponent a b : ℚ) < 2 ^ f.precision := by
    rw [div_lt_iff₀ power, ← zpow_natCast, ← zpow_add₀ two_ne_zero, add_comm]
    exact spans.upper
  push_cast
  linarith

theorem roundLeast (precise : 0 < f.precision) (above : 0 < a) (below : 0 < b)
    (free : f.leastExponent < f.lastExponent a b) : 2 ^ (f.precision - 1) ≤ (f.round a b).1 := by
  have spans := f.lastExponentSpans precise above below
  have power : (0 : ℚ) < 2 ^ f.lastExponent a b := by positivity
  have lower : (2 : ℚ) ^ (f.precision - 1) ≤ a / b / 2 ^ f.lastExponent a b := by
    have width : f.lastExponent a b + f.precision - 1 = ((f.precision - 1 : Nat) : Int) + f.lastExponent a b := by
      omega
    rw [le_div_iff₀ power, ← zpow_natCast, ← zpow_add₀ two_ne_zero, ← width]
    exact spans.lower free
  have positive : 0 < 2 ^ (f.precision - 1) := by positivity
  by_contra less
  have under : (f.round a b).1 ≤ 2 ^ (f.precision - 1) - 1 := by omega
  have cast : ((2 ^ (f.precision - 1) - 1 : Nat) : ℚ) = 2 ^ (f.precision - 1) - 1 := by
    rw [Nat.cast_sub positive]
    push_cast
    rfl
  rw [f.roundUpTo below, RoundsUpTo, cast] at under
  rcases under with less | ⟨same, -⟩ <;> linarith

def nearest (f : BinaryFormat) (a b : Nat) : ℚ := weight (f.round a b).1 (f.round a b).2

theorem nearestMono {c d : Nat} (precise : 0 < f.precision) (above : 0 < a) (below : 0 < b)
    (above' : 0 < c) (below' : 0 < d) (le : (a / b : ℚ) ≤ c / d) : f.nearest a b ≤ f.nearest c d := by
  have small := f.lastExponentSpans precise above below
  have large := f.lastExponentSpans precise above' below'
  simp only [nearest, weight, roundExponent]
  rcases lt_trichotomy (f.lastExponent a b) (f.lastExponent c d) with lower | same | higher
  · have least := roundLeast precise above' below' (lt_of_le_of_lt small.least lower)
    have most := roundMost precise above below
    calc ((f.round a b).1 : ℚ) * 2 ^ f.lastExponent a b
        ≤ 2 ^ (f.precision : Int) * 2 ^ f.lastExponent a b := by
          rw [zpow_natCast]
          gcongr
          exact_mod_cast most
      _ ≤ 2 ^ ((f.precision - 1 : Nat) : Int) * 2 ^ f.lastExponent c d := by
          rw [← zpow_add₀ two_ne_zero, ← zpow_add₀ two_ne_zero]
          exact zpow_le_zpow_right₀ one_le_two (by omega)
      _ ≤ (f.round c d).1 * 2 ^ f.lastExponent c d := by
          rw [zpow_natCast]
          gcongr
          exact_mod_cast least
  · have fewer : (f.round a b).1 ≤ (f.round c d).1 := by
      rw [f.roundUpTo below, same]
      refine ((f.roundUpTo below' _).mp le_rfl).below ?_
      gcongr
    rw [same]
    gcongr
  · have lower := large.least.trans_lt higher
    have under := small.lower lower
    have upper := large.upper
    have crossed : (2 : ℚ) ^ (f.lastExponent c d + f.precision) ≤
        2 ^ (f.lastExponent a b + f.precision - 1) := zpow_le_zpow_right₀ one_le_two (by omega)
    linarith

end BinaryFormat

namespace Binary64

def size (x : Binary64) : ℚ :=
  match x.meaning with
  | .finite _ m q => weight m q
  | _ => 0

theorem finiteMeaning {x : Binary64} (finite : x.isFinite = true) :
    ∃ m q, x.meaning = .finite x.isNegative m q ∧ m < 2 ^ 53 ∧ -1074 ≤ q ∧ q ≤ 971 := by
  have exponent : x.exponentField ≠ 2047 := by simpa [isFinite] using finite
  have small : x.exponentField < 2048 := Nat.mod_lt _ (by decide)
  have fraction : x.fractionField < 4503599627370496 := Nat.mod_lt _ (by decide)
  rw [meaning, if_neg exponent]
  split
  · exact ⟨_, _, rfl, by omega, by omega, by omega⟩
  · exact ⟨_, _, rfl, by rw [exponentUnit]; omega, by omega, by omega⟩

theorem sizeOf {x : Binary64} {n : Bool} {m : Nat} {q : Int} (meaning : x.meaning = .finite n m q) :
    x.size = weight m q := by
  rw [size, meaning]

theorem sizePositive (x : Binary64) : 0 ≤ x.size := by
  rw [size]
  split
  · rw [weight]
    positivity
  · exact le_rfl

theorem finiteOf {x : Binary64} {n : Bool} {m : Nat} {q : Int} (meaning : x.meaning = .finite n m q) :
    x.isFinite = true := by
  unfold Binary64.meaning at meaning
  split at meaning
  · split at meaning <;> cases meaning
  · simpa [isFinite]

theorem magnitudeBits (negative : Bool) {magnitude : Nat} (small : magnitude < signUnit) :
    (ofMagnitude negative magnitude).bits.toNat = magnitude + if negative then signUnit else 0 := by
  have fits : magnitude + (if negative then signUnit else 0) < 2 ^ 64 := by
    rw [signUnit] at small ⊢
    split <;> omega
  rw [ofMagnitude, Nat.mod_eq_of_lt small]
  exact UInt64.toNat_ofNat_of_lt' fits

theorem magnitudeFields (negative : Bool) {magnitude : Nat} (small : magnitude < signUnit) :
    (ofMagnitude negative magnitude).exponentField = magnitude / exponentUnit ∧
      (ofMagnitude negative magnitude).fractionField = magnitude % exponentUnit := by
  rw [exponentField, fractionField, magnitudeBits negative small]
  rw [signUnit] at small ⊢
  rw [exponentUnit]
  split <;> constructor <;> omega

theorem negateFinite (x : Binary64) : x.negate.isFinite = x.isFinite := by
  have bits : x.negate.bits.toNat = x.bits.toNat % signUnit + if !x.isNegative then signUnit else 0 := by
    refine UInt64.toNat_ofNat_of_lt' (show _ < 2 ^ 64 from ?_)
    rw [signUnit]
    split <;> omega
  have fields : x.negate.exponentField = x.exponentField := by
    rw [exponentField, bits, exponentField, signUnit, exponentUnit]
    split <;> omega
  rw [isFinite, fields, isFinite]

/- The pattern of a significand that is full unless its exponent is the least one; a carry into the
next exponent is kept as well. -/
theorem magnitudeSize (negative : Bool) {m : Nat} {q : Int} (most : m ≤ 2 ^ 53) (least : -1074 ≤ q)
    (full : -1074 < q → 2 ^ 52 ≤ m) (inside : m + (q + 1074).toNat * exponentUnit < 2047 * exponentUnit) :
    (ofMagnitude negative (m + (q + 1074).toNat * exponentUnit)).isFinite = true ∧
      (ofMagnitude negative (m + (q + 1074).toNat * exponentUnit)).size = weight m q := by
  obtain ⟨k, rfl⟩ : ∃ k : Nat, q = k - 1074 := ⟨(q + 1074).toNat, by omega⟩
  rw [sub_add_cancel, Int.toNat_natCast] at inside ⊢
  have small : m + k * exponentUnit < signUnit := by
    rw [signUnit]
    rw [exponentUnit] at inside ⊢
    omega
  obtain ⟨exponent, fraction⟩ := magnitudeFields negative small
  have finite : (ofMagnitude negative (m + k * exponentUnit)).isFinite = true := by
    rw [isFinite, exponent]
    rw [exponentUnit] at inside ⊢
    simp only [ne_eq, decide_eq_true_eq]
    omega
  refine ⟨finite, ?_⟩
  have notAll : (m + k * exponentUnit) / exponentUnit ≠ 2047 := by
    rw [exponentUnit] at inside ⊢
    omega
  rw [size, meaning, exponent, fraction, if_neg notAll]
  rw [exponentUnit] at *
  -- A significand below the full ones, a full one, and one that carries into the next exponent.
  rcases Nat.lt_or_ge m 4503599627370496 with subnormal | normal
  · obtain rfl : k = 0 := by omega
    have zero : (m + 0 * 4503599627370496) / 4503599627370496 = 0 := by omega
    have rest : (m + 0 * 4503599627370496) % 4503599627370496 = m := by omega
    rw [zero, rest]
    rfl
  rcases Nat.lt_or_ge m 9007199254740992 with normal' | carried
  · have next : (m + k * 4503599627370496) / 4503599627370496 = k + 1 := by omega
    have rest : 4503599627370496 + (m + k * 4503599627370496) % 4503599627370496 = m := by omega
    have shift : ((k + 1 : Nat) : Int) - 1075 = k - 1074 := by omega
    rw [next, rest, if_neg (Nat.succ_ne_zero k), shift]
  · obtain rfl : m = 2 * 4503599627370496 := by omega
    have next : (2 * 4503599627370496 + k * 4503599627370496) / 4503599627370496 = k + 2 := by omega
    have rest : (2 * 4503599627370496 + k * 4503599627370496) % 4503599627370496 = 0 := by omega
    have shift : ((k + 2 : Nat) : Int) - 1075 = k - 1074 + 1 := by omega
    rw [next, rest, if_neg (Nat.succ_ne_zero (k + 1)), shift]
    exact weightCarry _ _

def threshold : ℚ := weight (2 ^ 54 - 1) 970

theorem sizeBelow (x : Binary64) : x.size < threshold := by
  have greatest : weight (2 ^ 53 - 1) 971 < threshold := by
    rw [show (971 : Int) = 970 + 1 from rfl, weightCarry]
    exact weightLt (by norm_num)
  cases meant : x.meaning with
  | finite n m q =>
    obtain ⟨m', q', meaning, digits, -, most⟩ := finiteMeaning (finiteOf meant)
    rw [sizeOf meaning]
    exact (weightMono (by omega) most).trans_lt greatest
  | _ =>
    have none : x.size = 0 := by rw [size, meant]
    rw [none]
    exact lt_of_le_of_lt (by rw [weight]; positivity) greatest

theorem magnitudeInside {a b : Nat} (above : 0 < a) (below : 0 < b) :
    (BinaryFormat.double.round a b).1 +
        ((BinaryFormat.double.round a b).2 + 1074).toNat * exponentUnit < 2047 * exponentUnit ↔
      (a / b : ℚ) < threshold := by
  have precise : 0 < BinaryFormat.double.precision := by decide
  have spans := BinaryFormat.double.lastExponentSpans precise above below
  have most : (BinaryFormat.double.round a b).1 ≤ 2 ^ 53 := BinaryFormat.roundMost precise above below
  have least := BinaryFormat.roundLeast precise above below
  have upTo := BinaryFormat.double.roundUpTo below (2 ^ 53 - 1) (a := a)
  have upper := spans.upper
  have lower := spans.lower
  rw [BinaryFormat.roundExponent]
  generalize BinaryFormat.double.lastExponent a b = q at *
  generalize (BinaryFormat.double.round a b).1 = m at *
  rw [exponentUnit]
  rcases lt_trichotomy q 971 with small | rfl | large
  · refine iff_of_true (by omega) ?_
    calc (a / b : ℚ) < 2 ^ (q + (53 : Nat)) := upper
      _ ≤ 2 ^ ((970 : Int) + (53 : Nat)) := zpow_le_zpow_right₀ one_le_two (by omega)
      _ = weight (2 ^ 53) 970 := (weightPower 53 970).symm
      _ < threshold := weightLt (by norm_num)
  · have odd : (2 ^ 53 - 1) % 2 = 1 := by norm_num
    have power : (0 : ℚ) < 2 ^ (971 : Int) := by positivity
    have inside : m + (971 + 1074 : Int).toNat * 4503599627370496 < 2047 * 4503599627370496 ↔
        m ≤ 2 ^ 53 - 1 := by omega
    have middle : (((2 ^ 53 - 1 : Nat) : ℚ) + 1 / 2) * 2 ^ (971 : Int) = threshold := by
      rw [threshold, weight, show (971 : Int) = 970 + 1 from rfl, zpow_add_one₀ two_ne_zero]
      generalize (2 : ℚ) ^ (970 : Int) = unit
      push_cast
      ring
    rw [inside, upTo, BinaryFormat.RoundsUpTo, odd, div_lt_iff₀ power, middle]
    simp
  · have full : 2 ^ 52 ≤ m := least (lt_trans (by decide) large)
    refine iff_of_false (by omega) (not_lt.mpr ?_)
    calc threshold ≤ weight (2 ^ 54) 970 := (weightLt (by norm_num)).le
      _ = 2 ^ ((970 : Int) + (54 : Nat)) := weightPower 54 970
      _ ≤ 2 ^ (q + (53 : Nat) - 1) := zpow_le_zpow_right₀ one_le_two (by omega)
      _ ≤ a / b := lower (lt_trans (by decide) large)

theorem roundedSize (negative : Bool) {a b : Nat} (above : 0 < a) (below : 0 < b)
    (inside : (a / b : ℚ) < threshold) :
    (ofRatio negative a b).isFinite = true ∧
      (ofRatio negative a b).size = BinaryFormat.double.nearest a b := by
  have precise : 0 < BinaryFormat.double.precision := by decide
  have fits := (magnitudeInside above below).mpr inside
  have least := (BinaryFormat.double.lastExponentSpans precise above below).least
  have full := BinaryFormat.roundLeast precise above below
  rw [← BinaryFormat.roundExponent] at least full
  rw [ofRatio, if_neg above.ne']
  dsimp only
  rw [if_neg (not_le.mpr fits)]
  exact magnitudeSize negative (BinaryFormat.roundMost precise above below) least full fits

theorem zeroFinite (negative : Bool) : (zero negative).isFinite = true := by
  cases negative <;> rfl

theorem ofRatioFinite (negative : Bool) {a b : Nat} (below : 0 < b) :
    (ofRatio negative a b).isFinite = true ↔ (a / b : ℚ) < threshold := by
  rcases Nat.eq_zero_or_pos a with rfl | above
  · have none : ((0 : Nat) / b : ℚ) < threshold := by
      rw [Nat.cast_zero, zero_div, threshold, weight]
      positivity
    rw [ofRatio, if_pos rfl]
    exact iff_of_true (zeroFinite negative) none
  rcases lt_or_ge (a / b : ℚ) threshold with inside | outside
  · exact iff_of_true (roundedSize negative above below inside).1 inside
  · have overflow := not_lt.mp (mt (magnitudeInside above below).mp (not_lt.mpr outside))
    have infinite : (infinity negative).isFinite = false := by cases negative <;> rfl
    rw [ofRatio, if_neg above.ne']
    dsimp only
    rw [if_pos overflow, infinite]
    exact iff_of_false (by decide) (not_lt.mpr outside)

theorem ratioWeight (m : Nat) (q : Int) :
    ((ratio m q).1 / (ratio m q).2 : ℚ) = weight m q ∧ 0 < (ratio m q).2 := by
  have powers := BinaryFormat.powerQuotient 2 two_pos q
  rw [Nat.cast_two] at powers
  rw [weight, powers, ratio]
  split
  · rename_i up
    have none : (-q).toNat = 0 := by omega
    simp only [none, Nat.pow_eq]
    exact ⟨by push_cast; ring, one_pos⟩
  · rename_i down
    have none : q.toNat = 0 := by omega
    simp only [none, Nat.pow_eq]
    exact ⟨by push_cast; ring, Nat.two_pow_pos _⟩

def ten (power : Nat) : Binary64 := ofNat (Nat.pow 10 power)

theorem ofNatRounded {n : Nat} (above : 0 < n) (inside : (n : ℚ) < threshold) :
    (ofNat n).isFinite = true ∧ (ofNat n).size = BinaryFormat.double.nearest n 1 :=
  roundedSize false above one_pos (by rwa [Nat.cast_one, div_one])

theorem ofNatMono {n n' : Nat} (above : 0 < n) (le : n ≤ n') (inside : (n' : ℚ) < threshold) :
    (ofNat n).size ≤ (ofNat n').size := by
  have cast : (n : ℚ) ≤ n' := by exact_mod_cast le
  rw [(ofNatRounded above (cast.trans_lt inside)).2, (ofNatRounded (above.trans_le le) inside).2]
  refine BinaryFormat.nearestMono (by decide) above one_pos (above.trans_le le) one_pos ?_
  rwa [Nat.cast_one, div_one, div_one]

/- The leading digits of what rounds to the double below the greatest one. -/
theorem belowGreatest : 17976931348623156 * 10 ^ 292 ≤ (2 ^ 54 - 3) * 2 ^ 970 ∧
    (2 ^ 54 - 3) * 2 ^ 970 < 17976931348623158 * 10 ^ 292 := by
  decide +kernel

theorem tenInside {power : Nat} (held : power ≤ 308) : ((10 ^ power : Nat) : ℚ) < threshold := by
  rw [threshold, show (970 : Int) = (970 : Nat) from rfl, weightNat, Nat.cast_lt]
  obtain ⟨low, -⟩ := belowGreatest
  have least : 10 ^ power ≤ 10 ^ 16 * 10 ^ 292 := by
    rw [← pow_add]
    exact pow_le_pow_right₀ (by decide) held
  have some : 0 < 10 ^ 292 := by positivity
  generalize 10 ^ 292 = unit at low least some
  generalize 2 ^ 970 = last at low ⊢
  omega

theorem tenFinite {power : Nat} (held : power ≤ 308) : (ten power).isFinite = true :=
  (ofNatRounded (Nat.pow_pos (by decide)) (tenInside held)).1

theorem oneSize : (ofNat 1).size = 1 := by
  rw [sizeOf (show (ofNat 1).meaning = .finite false (2 ^ 52) (-52) by decide), weightPower]
  norm_num

theorem tenLeast {power : Nat} (held : power ≤ 308) : 1 ≤ (ten power).size := by
  rw [← oneSize]
  exact ofNatMono one_pos (Nat.one_le_pow _ _ (by decide)) (tenInside held)

theorem timesFinite {x : Binary64} {power : Nat} (finite : x.isFinite = true) (held : power ≤ 308) :
    (x.timesPowerOfTen power).isFinite = true ↔ x.size * (ten power).size < threshold := by
  obtain ⟨m, q, meaning, -⟩ := finiteMeaning finite
  obtain ⟨m', q', meaning', -⟩ := finiteMeaning (tenFinite held)
  obtain ⟨product, positive⟩ := ratioWeight (m * m') (q + q')
  have sizes : x.size * (ten power).size = weight (m * m') (q + q') := by
    rw [sizeOf meaning, sizeOf meaning', weight, weight, weight, zpow_add₀ two_ne_zero]
    push_cast
    ring
  rw [sizes, ← product]
  rw [ten] at meaning'
  rw [timesPowerOfTen, meaning, meaning']
  exact ofRatioFinite _ positive

theorem timesOne {x : Binary64} (finite : x.isFinite = true) : (x.timesPowerOfTen 0).isFinite = true := by
  have one : (ten 0).size = 1 := oneSize
  rw [timesFinite finite (by norm_num), one, mul_one]
  exact sizeBelow x

theorem timesFewer {x y : Binary64} {power more : Nat} (finite : x.isFinite = true)
    (finite' : y.isFinite = true) (held : more ≤ 308) (lower : power ≤ more) (le : x.size ≤ y.size)
    (fits : (y.timesPowerOfTen more).isFinite = true) : (x.timesPowerOfTen power).isFinite = true := by
  have positive := sizePositive (ten power)
  have positive' := sizePositive y
  have powers : (ten power).size ≤ (ten more).size :=
    ofNatMono (Nat.pow_pos (by decide)) (Nat.pow_le_pow_right (by decide) lower) (tenInside held)
  rw [timesFinite finite (lower.trans held)]
  refine lt_of_le_of_lt ?_ ((timesFinite finite' held).mp fits)
  gcongr

theorem overFinite {x : Binary64} {power : Nat} (finite : x.isFinite = true) (held : power ≤ 308) :
    (x.overPowerOfTen power).isFinite = true := by
  obtain ⟨m, q, meaning, -⟩ := finiteMeaning finite
  obtain ⟨m', q', meaning', -⟩ := finiteMeaning (tenFinite held)
  obtain ⟨quotient, positive⟩ := ratioWeight m (q - q')
  have least := tenLeast held
  rw [sizeOf meaning'] at least
  have digits : 0 < m' := by
    rcases Nat.eq_zero_or_pos m' with rfl | positive
    · rw [weight, Nat.cast_zero, zero_mul] at least
      exact absurd least (by norm_num)
    · exact positive
  have sizes : ((ratio m (q - q')).1 / ((ratio m (q - q')).2 * m' : Nat) : ℚ) = x.size / weight m' q' := by
    rw [Nat.cast_mul, ← div_div, quotient, sizeOf meaning, weight, weight, weight, zpow_sub₀ two_ne_zero]
    field_simp
  have inside : x.size / weight m' q' < threshold :=
    (div_le_self (sizePositive x) least).trans_lt (sizeBelow x)
  rw [← sizes, ← ofRatioFinite x.isNegative (Nat.mul_pos positive digits)] at inside
  rw [ten] at meaning'
  rw [overPowerOfTen, meaning, meaning']
  exact inside

end Binary64
end FeatureStore
