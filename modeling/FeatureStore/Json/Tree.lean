import FeatureStore.Json.Fault

/-!
JSON text as a tree that keeps its faults in place. A reader that needs a value meets the faults of
that value in the order of the text; a reader that skips a value (`Tree.skim`) checks less: it does
not look at the size of numbers or at what the escapes of a string stand for.
-/
namespace FeatureStore.Json

inductive ArrayEnd where
  | closed
  | afterComma
  | garbage
  | eof
  | eofAfterComma
  deriving DecidableEq, Repr

inductive ObjectEnd where
  | closed
  | afterComma
  | badKey (found : Except Fault Found)
  | garbage
  | eof
  | eofAfterComma

namespace ArrayEnd

def fault? : ArrayEnd → Option Fault
  | .closed => none
  | .afterComma => some .trailingComma
  | .garbage => some .expectedCommaInList
  | .eof => some .eofList
  | .eofAfterComma => some .eofValue

def skim : ArrayEnd → Option Fault
  | .afterComma => some .expectedValue
  | e => e.fault?

def faultAfter (itemsLeft : Bool) (e : ArrayEnd) : Option Fault :=
  if itemsLeft then some .trailingCharacters
  else
    match e with
    | .closed => none
    | .afterComma => some .trailingComma
    | .garbage | .eofAfterComma => some .trailingCharacters
    | .eof => some .eofList

end ArrayEnd

namespace ObjectEnd

def fault? : ObjectEnd → Option Fault
  | .closed => none
  | .afterComma => some .trailingComma
  | .badKey _ => some .keyNotString
  | .garbage => some .expectedCommaInObject
  | .eof => some .eofObject
  | .eofAfterComma => some .eofValue

def skim : ObjectEnd → Option Fault
  | .afterComma => some .keyNotString
  | .eofAfterComma => some .eofObject
  | e => e.fault?

end ObjectEnd

structure Literal where
  text : Except Fault String
  skim : Option Fault

def Literal.of (s : String) : Literal := ⟨.ok s, none⟩

inductive Tree where
  | null
  | bool (b : Bool)
  | number (value : Except Fault Number) (skim : Option Fault)
  | string (literal : Literal)
  | array (items : List Tree) (stop : ArrayEnd)
  | object (members : List (Literal × Tree)) (stop : ObjectEnd)
  -- The text ends where a value begins.
  | absent
  -- No value begins with the character that stands there.
  | foreign
  | word (fault : Fault)
  | uncolon (fault : Fault)

namespace Tree

mutual
def skim : Tree → Option Fault
  | .null | .bool _ => none
  | .number _ fault => fault
  | .string literal => literal.skim
  | .array items stop => (skimItems items).or stop.skim
  | .object members stop => (skimMembers members).or stop.skim
  | .absent => some .eofValue
  | .foreign => some .expectedValue
  | .word fault => some fault
  | .uncolon fault => some fault
def skimItems : List Tree → Option Fault
  | [] => none
  | t :: rest => (skim t).or (skimItems rest)
def skimMembers : List (Literal × Tree) → Option Fault
  | [] => none
  | (key, t) :: rest => key.skim.or ((skim t).or (skimMembers rest))
end

def found : Tree → Except Fault Found
  | .null => .ok .null
  | .bool b => .ok (.bool b)
  | .number value _ => value.map .number
  | .string literal => literal.text.map .string
  | .array _ _ => .ok .sequence
  | .object _ _ => .ok .map
  | .absent => .error .eofValue
  | .foreign => .error .expectedValue
  | .word fault => .error fault
  | .uncolon fault => .error fault

mutual
def ofJson : Json → Tree
  | .null => .null
  | .bool b => .bool b
  | .number n => .number (.ok n) none
  | .string s => .string (.of s)
  | .array items => .array (ofItems items) .closed
  | .object members => .object (ofMembers members) .closed
def ofItems : List Json → List Tree
  | [] => []
  | j :: rest => ofJson j :: ofItems rest
def ofMembers : List (String × Json) → List (Literal × Tree)
  | [] => []
  | (k, j) :: rest => (.of k, ofJson j) :: ofMembers rest
end

end Tree
end FeatureStore.Json
