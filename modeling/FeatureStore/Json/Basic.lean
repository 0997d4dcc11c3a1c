import FeatureStore.Number.Decimal

/-!
JSON values and their compact text. Members of an object are kept in the order in which they are
written; `Json.Ordered` says that every object has its keys in strictly ascending order, which is
how values read from text are held.
-/
namespace FeatureStore

structure WholeNumber where
  val : Int
  least : -9223372036854775808 ≤ val
  most : val < 18446744073709551616
  deriving DecidableEq, Repr

namespace WholeNumber

def ofInt64 (n : Int64) : WholeNumber :=
  ⟨n.toInt, n.le_toInt, Int.lt_trans n.toInt_lt (by decide)⟩

def ofNat? (n : Nat) : Option WholeNumber :=
  if h : n < 18446744073709551616 then some ⟨n, by omega, by omega⟩ else none

def ofNegative? (n : Nat) : Option WholeNumber :=
  if h : 0 < n ∧ n ≤ 9223372036854775808 then some ⟨-n, by omega, by omega⟩ else none

end WholeNumber

inductive Number where
  | whole (n : WholeNumber)
  | float (x : Binary64) (finite : x.isFinite = true)
  deriving DecidableEq, Repr

inductive Json where
  | null
  | bool (b : Bool)
  | number (n : Number)
  | string (s : String)
  | array (items : List Json)
  | object (members : List (String × Json))
  deriving Repr, BEq, Inhabited

namespace Json

def ofInt64 (n : Int64) : Json := .number (.whole (.ofInt64 n))

def ofBinary64 (x : Binary64) : Json :=
  if h : x.isFinite = true then .number (.float x h) else .null

def find? (key : String) : Json → Option Json
  | .object members => members.lookup key
  | _ => none

def insertMember (key : String) (value : Json) : List (String × Json) → List (String × Json)
  | [] => [(key, value)]
  | (k, v) :: rest =>
    if key < k then (key, value) :: (k, v) :: rest
    else if k < key then (k, v) :: insertMember key value rest
    else (key, value) :: rest

def ofMembers (members : List (String × Json)) : Json :=
  .object (members.foldl (fun out m => insertMember m.1 m.2 out) [])

def Ascending : List (String × Json) → Bool
  | [] => true
  | [_] => true
  | (k, _) :: (l, v) :: rest => decide (k < l) && Ascending ((l, v) :: rest)

mutual
def Ordered : Json → Bool
  | .array items => OrderedItems items
  | .object members => Ascending members && OrderedMembers members
  | _ => true
def OrderedItems : List Json → Bool
  | [] => true
  | j :: rest => Ordered j && OrderedItems rest
def OrderedMembers : List (String × Json) → Bool
  | [] => true
  | (_, j) :: rest => Ordered j && OrderedMembers rest
end

mutual
def height : Json → Nat
  | .array items => heightItems items + 1
  | .object members => heightMembers members + 1
  | _ => 0
def heightItems : List Json → Nat
  | [] => 0
  | j :: rest => max (height j) (heightItems rest)
def heightMembers : List (String × Json) → Nat
  | [] => 0
  | (_, j) :: rest => max (height j) (heightMembers rest)
end

def floatLayout : Decimal.Layout where
  least := -5
  greatest := 15
  plus := true
  infinity := "null"
  notANumber := "null"

def intChars (n : Int) : List Char :=
  if n < 0 then '-' :: Nat.toDigits 10 n.natAbs else Nat.toDigits 10 n.natAbs

def Number.chars : Number → List Char
  | .whole n => intChars n.val
  | .float x _ => (x.text floatLayout).toList

def hexDigit (n : Nat) : Char := "0123456789abcdef".toList.getD n '0'

def escapeChar (c : Char) : List Char :=
  if c = '"' then ['\\', '"']
  else if c = '\\' then ['\\', '\\']
  else if c = '\n' then ['\\', 'n']
  else if c = '\r' then ['\\', 'r']
  else if c = '\t' then ['\\', 't']
  else if c = '\x08' then ['\\', 'b']
  else if c = '\x0c' then ['\\', 'f']
  else if c.toNat < 0x20 then
    ['\\', 'u', '0', '0', hexDigit (c.toNat / 16), hexDigit (c.toNat % 16)]
  else [c]

def stringChars (s : String) : List Char := '"' :: (s.toList.flatMap escapeChar ++ ['"'])

mutual
def chars : Json → List Char
  | .null => ['n', 'u', 'l', 'l']
  | .bool true => ['t', 'r', 'u', 'e']
  | .bool false => ['f', 'a', 'l', 's', 'e']
  | .number n => Number.chars n
  | .string s => stringChars s
  | .array items => '[' :: (itemChars items ++ [']'])
  | .object members => '{' :: (memberChars members ++ ['}'])
def itemChars : List Json → List Char
  | [] => []
  | [j] => chars j
  | j :: k :: rest => chars j ++ ',' :: itemChars (k :: rest)
def memberChars : List (String × Json) → List Char
  | [] => []
  | [(k, j)] => stringChars k ++ ':' :: chars j
  | (k, j) :: m :: rest => stringChars k ++ ':' :: (chars j ++ ',' :: memberChars (m :: rest))
end

def text (j : Json) : String := String.ofList (chars j)

end Json
end FeatureStore
