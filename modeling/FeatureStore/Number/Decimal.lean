import FeatureStore.Number.Binary64

/-!
Decimal text of doubles. `Decimal.shortest` finds the fewest digits that read back as the same
number, the nearest of those to it; a `Layout` says how such digits are written.
-/
namespace FeatureStore

structure Decimal where
  digits : Nat
  exponent : Int
  deriving DecidableEq, Repr

namespace Decimal

/- The numbers that round to a double: from `low` to `high` over `unit`, with `exact` the double
itself; `closed` when both ends round to it as well. -/
structure Interval where
  low : Nat
  exact : Nat
  high : Nat
  unit : Nat
  closed : Bool
  deriving Repr

/- The interval of a positive significand and exponent. Below a power of two the neighbours are
twice as close, except at the least exponent. -/
def Interval.ofBinary (significand : Nat) (exponent : Int) : Interval :=
  let scale := Nat.pow 2 (exponent - 2).toNat
  let below := if significand = Binary64.exponentUnit ∧ exponent ≠ -1074 then 1 else 2
  ⟨(4 * significand - below) * scale, 4 * significand * scale, (4 * significand + 2) * scale,
    Nat.pow 2 (2 - exponent).toNat, significand % 2 = 0⟩

def leadingExponent (numerator denominator : Nat) : Int :=
  let guess : Int := ((Nat.log2 numerator : Int) - Nat.log2 denominator) * 1233 / 4096
  let reaches (e : Int) : Bool :=
    decide (denominator * Nat.pow 10 e.toNat ≤ numerator * Nat.pow 10 (-e).toNat)
  if reaches (guess + 1) then guess + 1 else if reaches guess then guess else guess - 1

/- The point of the grid `10 ^ exponent` that lies in the interval, the nearer if both neighbours of
the number do, the even one if they are equally near. -/
def Interval.onGrid (i : Interval) (exponent : Int) : Option Nat :=
  let up := Nat.pow 10 (-exponent).toNat
  let step := i.unit * Nat.pow 10 exponent.toNat
  let d := i.exact * up / step
  let below := d * step
  let above := below + step
  let lowFits := if i.closed then i.low * up ≤ below else i.low * up < below
  let highFits := if i.closed then above ≤ i.high * up else above < i.high * up
  if lowFits ∧ highFits then
    let down := i.exact * up - below
    let rise := above - i.exact * up
    some (if down < rise ∨ (down = rise ∧ d % 2 = 0) then d else d + 1)
  else if lowFits then some d
  else if highFits then some (d + 1)
  else none

def Interval.firstGrid (i : Interval) : Nat → Int → Decimal
  | 0, exponent => ⟨i.exact * Nat.pow 10 (-exponent).toNat / (i.unit * Nat.pow 10 exponent.toNat), exponent⟩
  | more + 1, exponent =>
    match i.onGrid exponent with
    | some d => ⟨d, exponent⟩
    | none => i.firstGrid more (exponent - 1)

def normalize (fuel : Nat) (d : Decimal) : Decimal :=
  match fuel with
  | 0 => d
  | fuel + 1 =>
    if d.digits ≠ 0 ∧ d.digits % 10 = 0 then normalize fuel ⟨d.digits / 10, d.exponent + 1⟩ else d

def shortest (significand : Nat) (exponent : Int) : Decimal :=
  let i := Interval.ofBinary significand exponent
  normalize 20 (i.firstGrid 18 (leadingExponent i.exact i.unit))

structure Layout where
  -- The least and greatest exponent of the leading digit that are written without an exponent.
  least : Int
  greatest : Int
  plus : Bool
  infinity : String
  notANumber : String

def positional (digits : List Char) (exponent : Int) : List Char :=
  let n : Int := digits.length
  if 0 ≤ exponent then digits ++ List.replicate exponent.toNat '0' ++ ['.', '0']
  else if -exponent < n then
    digits.take (n + exponent).toNat ++ '.' :: digits.drop (n + exponent).toNat
  else '0' :: '.' :: (List.replicate (-exponent - n).toNat '0' ++ digits)

def scientific (layout : Layout) (digits : List Char) (leading : Int) : List Char :=
  let mark := if leading < 0 then ['-'] else if layout.plus then ['+'] else []
  let fraction := match digits.drop 1 with
    | [] => []
    | rest => '.' :: rest
  digits.take 1 ++ fraction ++ 'e' :: mark ++ (Nat.repr leading.natAbs).toList

def write (layout : Layout) (d : Decimal) : List Char :=
  let digits := (Nat.repr d.digits).toList
  let leading := d.exponent + (digits.length - 1 : Nat)
  if layout.least ≤ leading ∧ leading ≤ layout.greatest then positional digits d.exponent
  else scientific layout digits leading

end Decimal

namespace Binary64

def text (layout : Decimal.Layout) (x : Binary64) : String :=
  match x.meaning with
  | .notANumber => layout.notANumber
  | .infinite n => (if n then "-" else "") ++ layout.infinity
  | .finite n m q =>
    let body := if m = 0 then ['0', '.', '0'] else (Decimal.shortest m q).write layout
    String.ofList (if n then '-' :: body else body)

end Binary64
end FeatureStore
