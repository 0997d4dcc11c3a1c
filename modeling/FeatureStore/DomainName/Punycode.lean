/-!
Labels in ASCII. The other characters of a label are written behind its ASCII characters, in the order
of their code points, as numbers that tell how far each is from the one before; the digits of a number
tell themselves where it ends, by thresholds that follow the numbers so far.
-/
namespace FeatureStore.DomainName.Punycode

def digitOf (n : Nat) : Char := Char.ofNat (if n < 26 then 'a'.toNat + n else '0'.toNat + (n - 26))

def digitValue? (c : Char) : Option Nat :=
  if 'a' ≤ c ∧ c ≤ 'z' then some (c.toNat - 'a'.toNat)
  else if 'A' ≤ c ∧ c ≤ 'Z' then some (c.toNat - 'A'.toNat)
  else if c.isDigit then some (c.toNat - '0'.toNat + 26)
  else none

def firstPoint : Nat := 0x80

def firstBias : Nat := 72

/- A digit below the threshold ends a number; `position` counts digits in steps of 36. -/
def threshold (position bias : Nat) : Nat := max 1 (min 26 (position - bias))

def shrink (delta position : Nat) : Nat × Nat :=
  if 455 < delta then shrink (delta / 35) (position + 36) else (delta, position)
termination_by delta
decreasing_by exact Nat.div_lt_self (by omega) (by omega)

def adapt (delta count : Nat) (isFirst : Bool) : Nat :=
  let delta := if isFirst then delta / 700 else delta / 2
  let (delta, position) := shrink (delta + delta / count) 0
  position + 36 * delta / (delta + 38)

def digitsFrom (bias position n : Nat) : List Char :=
  let t := threshold position bias
  if n < t then [digitOf n]
  else digitOf (t + (n - t) % (36 - t)) :: digitsFrom bias (position + 36) ((n - t) / (36 - t))
termination_by n
decreasing_by
  have least : 1 ≤ threshold position bias := Nat.le_max_left ..
  exact Nat.lt_of_le_of_lt (Nat.div_le_self _ _) (by omega)

structure Writing where
  written : List Char
  delta : Nat
  bias : Nat
  count : Nat

def Writing.pass (basic n : Nat) (w : Writing) (c : Char) : Writing :=
  if c.toNat < n then { w with delta := w.delta + 1 }
  else if c.toNat = n then
    ⟨w.written ++ digitsFrom w.bias 36 w.delta, 0, adapt w.delta (w.count + 1) (w.count = basic),
      w.count + 1⟩
  else w

def leastFrom (n : Nat) (s : List Char) : Option Nat :=
  s.foldl (fun least c =>
    if c.toNat < n then least else some (min c.toNat (least.getD c.toNat))) none

def writeFrom (s : List Char) (basic : Nat) : Nat → Nat → Writing → Writing
  | 0, _, w => w
  | fuel + 1, n, w =>
    match leastFrom n s with
    | none => w
    | some m =>
      let w := s.foldl (Writing.pass basic m) { w with delta := w.delta + (m - n) * (w.count + 1) }
      writeFrom s basic fuel (m + 1) { w with delta := w.delta + 1 }

def encode (s : List Char) : List Char :=
  let basic := s.filter fun c => c.toNat < firstPoint
  let start := ⟨[], 0, firstBias, basic.length⟩
  let more := (writeFrom s basic.length (s.length + 1) firstPoint start).written
  if basic.isEmpty then more else basic ++ '-' :: more

def numberFrom (bias : Nat) : List Char → Nat → Nat → Nat → Option (Nat × List Char)
  | [], _, _, _ => none
  | c :: rest, position, weight, n => do
    let d ← digitValue? c
    let t := threshold position bias
    if d < t then some (n + d * weight, rest)
    else numberFrom bias rest (position + 36) (weight * (36 - t)) (n + d * weight)

def readFrom : Nat → List Char → Nat → Nat → Nat → List Char → Option (List Char)
  | 0, _, _, _, _, _ => none
  | _ + 1, [], _, _, _, held => some held
  | fuel + 1, s, bias, n, i, held => do
    let (next, rest) ← numberFrom bias s 36 1 i
    let count := held.length + 1
    let point := n + next / count
    if point.isValidChar then
      let place := next % count
      let held := held.take place ++ Char.ofNat point :: held.drop place
      readFrom fuel rest (adapt (next - i) count (i = 0)) point (place + 1) held
    else none

def splitLast (s : List Char) : List Char × List Char :=
  let more := (s.reverse.takeWhile (· != '-')).reverse
  let basic := s.take (s.length - more.length - 1)
  if basic.isEmpty then ([], s) else (basic, more)

def decode? (s : List Char) : Option (List Char) :=
  let (basic, more) := splitLast s
  if s.all fun c => c.toNat < firstPoint then
    readFrom (more.length + 1) more firstBias firstPoint 0 basic
  else none

end FeatureStore.DomainName.Punycode
