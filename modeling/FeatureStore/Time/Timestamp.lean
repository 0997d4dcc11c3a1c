import FeatureStore.Time.Date

/-!
Points in time with nanoseconds, in UTC. A leap second is held as the second before it with at least
`10 ^ 9` nanoseconds, so that the order of times is the order of the pairs.
-/
namespace FeatureStore

structure Timestamp where
  seconds : Int
  nanos : Nat
  least : -8334601228800 ≤ seconds
  most : seconds ≤ 8210266876799
  nanos_lt : nanos < 2000000000
  leap_last : 1000000000 ≤ nanos → seconds % 60 = 59
  deriving DecidableEq, Repr

namespace Timestamp

def nanosPerSecond : Nat := 1000000000

def epoch : Timestamp := ⟨0, 0, by decide, by decide, by decide, by decide⟩

instance : Inhabited Timestamp := ⟨epoch⟩

def ofParts? (seconds : Int) (nanos : Nat) : Option Timestamp :=
  if h : (-8334601228800 ≤ seconds ∧ seconds ≤ 8210266876799) ∧
      (nanos < 2000000000 ∧ (1000000000 ≤ nanos → seconds % 60 = 59)) then
    some ⟨seconds, nanos, h.1.1, h.1.2, h.2.1, h.2.2⟩
  else none

def lt (a b : Timestamp) : Bool :=
  decide (a.seconds < b.seconds) || (decide (a.seconds = b.seconds) && decide (a.nanos < b.nanos))

def le (a b : Timestamp) : Bool := !lt b a

def digits (width n : Nat) : List Char :=
  let ds := Nat.toDigits 10 n
  List.replicate (width - ds.length) '0' ++ ds

def yearChars (year : Int) : List Char :=
  if 0 ≤ year ∧ year ≤ 9999 then digits 4 year.toNat
  else (if year < 0 then '-' else '+') :: digits 4 year.natAbs

def fractionChars (nanos : Nat) : List Char :=
  if nanos = 0 then []
  else if nanos % 1000000 = 0 then '.' :: digits 3 (nanos / 1000000)
  else if nanos % 1000 = 0 then '.' :: digits 6 (nanos / 1000)
  else '.' :: digits 9 nanos

def text (t : Timestamp) : String :=
  let date := Date.ofDayNumber (t.seconds / 86400)
  let second := (t.seconds % 86400).toNat
  let leap := t.nanos / nanosPerSecond
  String.ofList (
    yearChars date.year ++ '-' :: digits 2 date.month ++ '-' :: digits 2 date.day ++
    'T' :: digits 2 (second / 3600) ++ ':' :: digits 2 (second / 60 % 60) ++
    ':' :: digits 2 (second % 60 + leap) ++ fractionChars (t.nanos % nanosPerSecond) ++ ['Z'])

def year2000 : Int := 946684800

def toMicros (t : Timestamp) : Int :=
  Int.tdiv ((t.seconds - year2000) * 1000000000 + t.nanos) 1000

def ofMicros? (micros : Int) : Option Timestamp :=
  ofParts? (year2000 + micros / 1000000) ((micros % 1000000).toNat * 1000)

end Timestamp
end FeatureStore
