import FeatureStore.Text.Digit

/-!
Numeric addresses of machines. An address of version 4 has up to four numbers, the last of which fills
the bytes that the others leave; one of version 6 has eight groups of 16 bits.
-/
namespace FeatureStore.Address
open Text (number?)

def parts (name : List Char) : List (List Char) :=
  let all := name.splitOn '.'
  if all.getLast? = some [] then all.dropLast else all

/- A number of an address: hexadecimal behind `0x`, octal behind another zero, and decimal else. -/
def partNumber? : List Char → Option Nat
  | [] => none
  | '0' :: 'x' :: digits => number? 16 digits
  | '0' :: d :: digits => number? 8 (d :: digits)
  | digits => number? 10 digits

def isNumeric (name : List Char) : Bool :=
  match (parts name).getLast? with
  | none => false
  | some last => (!last.isEmpty && last.all Char.isDigit) || (partNumber? last).isSome

def ipv4? (name : List Char) : Option UInt32 := do
  let numbers ← (parts name).mapM partNumber?
  let last ← numbers.getLast?
  let first := numbers.dropLast
  let range := Nat.pow 256 (4 - first.length)
  if first.length ≤ 3 && first.all (· ≤ 255) && last < range then
    some (.ofNat (first.foldl (fun n byte => n * 256 + byte) 0 * range + last))
  else none

def octet? (s : List Char) : Option Nat := do
  let n ← number? 10 s
  if n ≤ 255 && !s.isEmpty && (s.length = 1 || s.head? != some '0') then some n else none

def quad? (s : List Char) : Option (List Nat) := do
  match ← (s.splitOn '.').mapM octet? with
  | [a, b, c, d] => some [a * 256 + b, c * 256 + d]
  | _ => none

def group? (s : List Char) : Option Nat :=
  if !s.isEmpty && s.length ≤ 4 then number? 16 s else none

def groups? : List (List Char) → Option (List Nat)
  | [] => some []
  | [last] => ((group? last).map fun n => [n]).or (quad? last)
  | part :: rest => do
    let n ← group? part
    some (n :: (← groups? rest))

def splitGap (before : List Char) : List Char → Option (List Char × List Char)
  | ':' :: ':' :: rest => some (before.reverse, rest)
  | c :: rest => splitGap (c :: before) rest
  | [] => none

def side? (s : List Char) : Option (List Nat) := if s.isEmpty then some [] else groups? (s.splitOn ':')

def ipv6? (s : List Char) : Option (List Nat) := do
  match splitGap [] s with
  | none =>
    let all ← groups? (s.splitOn ':')
    if all.length = 8 then some all else none
  | some (left, right) =>
    let first ← side? left
    let last ← side? right
    if first.length + last.length < 8 && !left.contains '.' then
      some (first ++ List.replicate (8 - first.length - last.length) 0 ++ last)
    else none

end FeatureStore.Address
