import FeatureStore.Text.Digit

/-!
Characters of a YAML text, and places in it. A line ends with a line feed, a carriage return, both in
this order, or one of three wider line ends; a place knows its line and its column, because blocks are
told apart by how far they are indented.
-/
namespace FeatureStore.Yaml

def isBlank (c : Char) : Bool := c == ' ' || c == '\t'

def isBreak (c : Char) : Bool :=
  c == '\n' || c == '\r' || c == '\u0085' || c == '\u2028' || c == '\u2029'

def isWord (c : Char) : Bool := c.isAlphanum || c == '-' || c == '_'

def isFlowIndicator (c : Char) : Bool := c == ',' || c == '[' || c == ']' || c == '\x7b' || c == '\x7d'

def endsLine : List Char → Bool
  | [] => true
  | c :: _ => isBreak c

def isGap : List Char → Bool
  | [] => true
  | c :: _ => isBlank c || isBreak c

def isMarker : List Char → Bool
  | '-' :: '-' :: '-' :: rest => isGap rest
  | '.' :: '.' :: '.' :: rest => isGap rest
  | _ => false

def isAllowed (c : Char) : Bool :=
  c == '\t' || c == '\n' || c == '\r' || c == '\u0085' || (' ' ≤ c && c ≤ '~') ||
    ('\u00a0' ≤ c && c ≤ '\ufffd') || 0x10000 ≤ c.toNat

def hexNumber? (count : Nat) (s : List Char) : Option Nat :=
  let digits := s.take count
  if digits.length = count then Text.number? 16 digits else none

structure Place where
  rest : List Char
  index : Nat
  line : Nat
  column : Nat
  deriving DecidableEq, Repr

namespace Place

def start (text : List Char) : Place := ⟨text, 0, 0, 0⟩

def step (p : Place) : Place :=
  match p.rest with
  | [] => p
  | _ :: rest => ⟨rest, p.index + 1, p.line, p.column + 1⟩

def steps : Nat → Place → Place
  | 0, p => p
  | n + 1, p => steps n p.step

def stepLine (p : Place) : Place :=
  match p.rest with
  | '\r' :: '\n' :: rest => ⟨rest, p.index + 2, p.line + 1, 0⟩
  | c :: rest => if isBreak c then ⟨rest, p.index + 1, p.line + 1, 0⟩ else p
  | [] => p

def lineEnd (p : Place) : List Char :=
  match p.rest with
  | '\u2028' :: _ => ['\u2028']
  | '\u2029' :: _ => ['\u2029']
  | c :: _ => if isBreak c then ['\n'] else []
  | [] => []

def wordOf (p : Place) (test : Char → Bool) : List Char := p.rest.takeWhile test

def skip (p : Place) (test : Char → Bool) : Place := p.steps (p.wordOf test).length

def startsWith (p : Place) (c : Char) : Bool := p.rest.head? == some c

def expect? (p : Place) (c : Char) : Option Place := if p.startsWith c then some p.step else none

def atMarker (p : Place) : Bool := p.column == 0 && isMarker p.rest

def restOfLine? (p : Place) : Option Place :=
  let p := p.skip isBlank
  let p := if p.startsWith '#' then p.skip (!isBreak ·) else p
  if endsLine p.rest then some p.stepLine else none

end Place
end FeatureStore.Yaml
