/-!
Double precision numbers as bit patterns. Every operation is exact arithmetic on naturals followed
by one rounding to the nearest representable number, ties to the even one; no machine float is
involved. Infinities and not-a-number exist as patterns but take no part in the arithmetic.
-/
namespace FeatureStore

structure Binary64 where
  bits : UInt64
  deriving DecidableEq, Repr, Inhabited

namespace Binary64

/- What a bit pattern stands for; a finite pattern is `significand * 2 ^ exponent` with a sign. -/
inductive Meaning where
  | finite (negative : Bool) (significand : Nat) (exponent : Int)
  | infinite (negative : Bool)
  | notANumber
  deriving DecidableEq, Repr

def exponentUnit : Nat := 4503599627370496

def signUnit : Nat := 9223372036854775808

def fractionField (x : Binary64) : Nat := x.bits.toNat % exponentUnit

def exponentField (x : Binary64) : Nat := x.bits.toNat / exponentUnit % 2048

def isNegative (x : Binary64) : Bool := decide (signUnit ≤ x.bits.toNat)

def isFinite (x : Binary64) : Bool := decide (x.exponentField ≠ 2047)

def meaning (x : Binary64) : Meaning :=
  if x.exponentField = 2047 then
    if x.fractionField = 0 then .infinite x.isNegative else .notANumber
  else if x.exponentField = 0 then .finite x.isNegative x.fractionField (-1074)
  else .finite x.isNegative (exponentUnit + x.fractionField) (x.exponentField - 1075)

def ofMagnitude (negative : Bool) (magnitude : Nat) : Binary64 :=
  ⟨UInt64.ofNat (magnitude % signUnit + if negative then signUnit else 0)⟩

def infinity (negative : Bool) : Binary64 := ofMagnitude negative (2047 * exponentUnit)

def zero (negative : Bool) : Binary64 := ofMagnitude negative 0

def negate (x : Binary64) : Binary64 := ofMagnitude (!x.isNegative) x.bits.toNat

def isZero (x : Binary64) : Bool := decide (x.bits.toNat % signUnit = 0)

end Binary64

structure BinaryFormat where
  precision : Nat
  leastExponent : Int

namespace BinaryFormat

def double : BinaryFormat := ⟨53, -1074⟩

def single : BinaryFormat := ⟨24, -149⟩

def roundDiv (numerator denominator : Nat) : Nat :=
  let q := numerator / denominator
  let r := numerator % denominator
  if 2 * r < denominator then q
  else if 2 * r = denominator then q + q % 2
  else q + 1

def lastExponent (f : BinaryFormat) (numerator denominator : Nat) : Int :=
  let guess : Int := Nat.log2 numerator - Nat.log2 denominator - (f.precision - 1 : Nat)
  let short := if 0 ≤ guess then numerator < denominator * Nat.pow 2 (guess.toNat + (f.precision - 1))
    else numerator * Nat.pow 2 (-guess).toNat < denominator * Nat.pow 2 (f.precision - 1)
  max (if short then guess - 1 else guess) f.leastExponent

/-- The nearest number of the format as a significand and an exponent; the significand may reach
`2 ^ precision` when rounding carries. -/
def round (f : BinaryFormat) (numerator denominator : Nat) : Nat × Int :=
  let q := f.lastExponent numerator denominator
  if 0 ≤ q then (roundDiv numerator (denominator * Nat.pow 2 q.toNat), q)
  else (roundDiv (numerator * Nat.pow 2 (-q).toNat) denominator, q)

end BinaryFormat

namespace Binary64

def ofRatio (negative : Bool) (numerator denominator : Nat) : Binary64 :=
  if numerator = 0 then zero negative
  else
    let (m, q) := BinaryFormat.double.round numerator denominator
    let magnitude := m + (q + 1074).toNat * exponentUnit
    if 2047 * exponentUnit ≤ magnitude then infinity negative else ofMagnitude negative magnitude

def ofNat (n : Nat) : Binary64 := ofRatio false n 1

def ofInt (n : Int) : Binary64 := ofRatio (decide (n < 0)) n.natAbs 1

def ratio (significand : Nat) (exponent : Int) : Nat × Nat :=
  if 0 ≤ exponent then (significand * Nat.pow 2 exponent.toNat, 1)
  else (significand, Nat.pow 2 (-exponent).toNat)

def timesPowerOfTen (x : Binary64) (power : Nat) : Binary64 :=
  match x.meaning, (ofNat (Nat.pow 10 power)).meaning with
  | .finite n m q, .finite _ m' q' =>
    let (a, b) := ratio (m * m') (q + q')
    ofRatio n a b
  | .finite n _ _, _ => infinity n
  | _, _ => x

def overPowerOfTen (x : Binary64) (power : Nat) : Binary64 :=
  match x.meaning, (ofNat (Nat.pow 10 power)).meaning with
  | .finite n m q, .finite _ m' q' =>
    let (a, b) := ratio m (q - q')
    ofRatio n a (b * m')
  | .finite n _ _, _ => zero n
  | _, _ => x

def toSingle (x : Binary64) : Binary64 :=
  match x.meaning with
  | .finite n 0 _ => zero n
  | .finite n m q =>
    let (a, b) := ratio m q
    let (m', q') := BinaryFormat.single.round a b
    let (c, d) := ratio m' q'
    if Nat.pow 2 128 * d ≤ c then infinity n else ofRatio n c d
  | _ => x

def singleOfInt (n : Int) : Binary64 :=
  if n = 0 then zero false
  else
    let (m, q) := BinaryFormat.single.round n.natAbs 1
    let (c, d) := ratio m q
    ofRatio (decide (n < 0)) c d

end Binary64
end FeatureStore
