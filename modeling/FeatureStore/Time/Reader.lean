import FeatureStore.Text.Blank
import FeatureStore.Time.Timestamp

/-!
Reading times from text. `Timestamp.read` takes spaces between the parts and parts with fewer digits;
`Timestamp.readFixed` takes the form of RFC 3339 with every digit in its place.
-/
namespace FeatureStore.Timestamp

inductive Fault where
  | invalid
  | outOfRange
  | tooShort
  | tooLong
  | impossible
  deriving DecidableEq, Repr

def Fault.message : Fault → String
  | .invalid => "input contains invalid characters"
  | .outOfRange => "input is out of range"
  | .tooShort => "premature end of input"
  | .tooLong => "trailing input"
  | .impossible => "no possible date and time matching input"

abbrev Scan (α : Type) := StateT (List Char) (Except Fault) α

namespace Scan

def fail (fault : Fault) : Scan α := throw fault

def require (ok : Bool) (fault : Fault) : Scan Unit :=
  if ok then pure () else fail fault

def skipBlank : Scan Unit := modify Text.trimStart

def byteLength (s : List Char) : Nat := s.foldl (fun n c => n + c.utf8Size) 0

def digitValue (c : Char) : Nat := c.toNat - '0'.toNat

def natOf (ds : List Char) : Nat := ds.foldl (fun n d => n * 10 + digitValue d) 0

def leadingDigits (most : Nat) (s : List Char) : List Char := (s.take most).takeWhile Char.isDigit

/- A number of one digit or more; one that no signed word of 64 bits holds is out of range. -/
def number (most : Nat) : Scan Nat := do
  let s ← get
  let ds := leadingDigits most s
  if s.isEmpty then fail .tooShort
  else if ds.isEmpty then fail .invalid
  else if 9223372036854775808 ≤ natOf ds then fail .outOfRange
  else
    set (s.drop ds.length)
    return natOf ds

def literal (c : Char) : Scan Unit := do
  match ← get with
  | [] => fail .tooShort
  | d :: rest => if d = c then set rest else fail .invalid

def part (least most : Nat) : Scan Nat := do
  skipBlank
  let n ← number 2
  require (decide (least ≤ n ∧ n ≤ most)) .outOfRange
  return n

def year : Scan Int := do
  skipBlank
  let s ← get
  let y : Int ←
    match s with
    | '-' :: rest => do set rest; pure (-(← number rest.length : Int))
    | '+' :: rest => do set rest; pure (← number rest.length : Int)
    | _ => do pure (← number 4 : Int)
  require (decide (-2147483648 ≤ y ∧ y < 2147483648)) .outOfRange
  return y

def fraction : Scan Nat := do
  let s ← get
  let n ← number 9
  let used := (leadingDigits 9 s).length
  modify (·.dropWhile Char.isDigit)
  return n * Nat.pow 10 (9 - used)

def optionalFraction : Scan Nat := do
  match ← get with
  | '.' :: rest => set rest; fraction
  | _ => return 0

def twoDigits : Scan Nat := do
  let s ← get
  if byteLength s < 2 then fail .tooShort
  else
    match s with
    | a :: b :: rest =>
      if a.isDigit && b.isDigit then
        set rest
        return digitValue a * 10 + digitValue b
      else fail .invalid
    | _ => fail .invalid

/- Minutes of an offset: the first digit decides between a wrong character and a wrong size. -/
def offsetMinutes : Scan Nat := do
  let n ← twoDigits
  require (decide (n < 60)) .outOfRange
  return n

def offset (separator : Scan Unit) : Scan Int := do
  match ← get with
  | 'Z' :: rest | 'z' :: rest => set rest; return 0
  | [] => fail .tooShort
  | c :: rest =>
    require (c == '+' || c == '-' || c == '−') .invalid
    set rest
    let hours ← twoDigits
    separator
    let minutes ← offsetMinutes
    let total : Int := hours * 3600 + minutes * 60
    return if c = '+' then total else -total

def colonOrBlank : Scan Unit := modify (·.dropWhile fun c => c == ':' || Text.isBlank c)

def zone : Scan Int := do
  match ← get with
  | a :: b :: c :: rest =>
    if a.toUpper == 'U' && b.toUpper == 'T' && c.toUpper == 'C' then
      set rest
      return 0
    else offset colonOrBlank
  | _ => offset colonOrBlank

structure Clock where
  hour : Nat
  minute : Nat
  second : Nat
  nanos : Nat

def moment (date : Date) (clock : Clock) (offset : Int) : Except Fault Timestamp := do
  unless decide (-86400 < offset ∧ offset < 86400) do throw .outOfRange
  let leap := clock.second / 60
  let local' := date.dayNumber * 86400 +
    ((clock.hour * 3600 + clock.minute * 60 + (clock.second - leap) : Nat) : Int)
  match ofParts? (local' - offset) (clock.nanos + leap * nanosPerSecond) with
  | some t => return t
  | none => throw .impossible

def inYears (d : Date) : Bool := decide (-262143 ≤ d.year ∧ d.year ≤ 262142)

def separateDateAndTime : Scan Unit := do
  match ← get with
  | [] => fail .tooShort
  | c :: rest => if c == 't' || c == 'T' || c == ' ' then set rest else fail .invalid

def flexible : Scan Timestamp := do
  let y ← year
  skipBlank; literal '-'
  let month ← part 1 12
  skipBlank; literal '-'
  let day ← part 1 31
  separateDateAndTime
  let hour ← part 0 23
  skipBlank; literal ':'
  let minute ← part 0 59
  skipBlank; literal ':'
  let second ← part 0 60
  let nanos ← optionalFraction
  skipBlank
  let offset ← zone
  require ((Text.trimStart (← get)).isEmpty) .tooLong
  let date : Date := ⟨y, month, day⟩
  require (inYears date && decide date.IsValid) .outOfRange
  moment date ⟨hour, minute, second, nanos⟩ offset

def fixedNumber : Nat → Nat → Scan Nat
  | 0, n => return n
  | width + 1, n => do
    match ← get with
    | d :: rest =>
      if d.isDigit then
        set rest
        fixedNumber width (n * 10 + digitValue d)
      else fail .invalid
    | [] => fail .invalid

def fixedLiteral (accept : Char → Bool) : Scan Unit := do
  match ← get with
  | d :: rest => if accept d then set rest else fail .invalid
  | [] => fail .invalid

def fixed : Scan Timestamp := do
  require (decide (19 ≤ byteLength (← get))) .tooShort
  let year ← fixedNumber 4 0
  fixedLiteral (· == '-')
  let month ← fixedNumber 2 0
  fixedLiteral (· == '-')
  let day ← fixedNumber 2 0
  let date : Date := ⟨year, month, day⟩
  require (decide date.IsValid) .outOfRange
  fixedLiteral fun c => c == 't' || c == 'T' || c == ' '
  let hour ← fixedNumber 2 0
  fixedLiteral (· == ':')
  let minute ← fixedNumber 2 0
  fixedLiteral (· == ':')
  let second ← fixedNumber 2 0
  let nanos ← optionalFraction
  require (decide (hour < 24 ∧ minute < 60 ∧ second ≤ 60)) .outOfRange
  let offset ← offset (literal ':')
  require (← get).isEmpty .tooLong
  moment date ⟨hour, minute, second, nanos⟩ offset

end Scan

def read (s : String) : Except Fault Timestamp := (Scan.flexible.run s.toList).map (·.1)

def readFixed (s : String) : Except Fault Timestamp := (Scan.fixed.run s.toList).map (·.1)

end FeatureStore.Timestamp
