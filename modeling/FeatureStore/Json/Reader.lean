import FeatureStore.Json.Tree
import FeatureStore.Text.Digit
import FeatureStore.Text.Utf8

/-!
Reading JSON text into a `Tree`. Every function here returns what it read and what follows, `none`
when no reader can go on: a text is broken at most once, and the tree holds the fault there.
-/
namespace FeatureStore.Json
open Text (Symbol)

namespace Reader

def isBlank : Symbol → Bool
  | .char c => c == ' ' || c == '\n' || c == '\t' || c == '\r'
  | .stray _ => false

def skipBlank (s : List Symbol) : List Symbol := s.dropWhile isBlank

def isDigit : Symbol → Bool
  | .char c => c.isDigit
  | .stray _ => false

def digitValue : Symbol → Nat
  | .char c => c.toNat - '0'.toNat
  | .stray _ => 0

def hexValue? : Symbol → Option Nat
  | .char c => Text.digit? 16 c
  | .stray _ => none

def hexUnit (s : List Symbol) : Except Fault (Nat × List Symbol) :=
  if (s.take 4).foldl (fun n c => n + c.size) 0 < 4 then .error .eofString
  else
    match s with
    | a :: b :: c :: d :: rest =>
      match hexValue? a, hexValue? b, hexValue? c, hexValue? d with
      | some a, some b, some c, some d => .ok (((a * 16 + b) * 16 + c) * 16 + d, rest)
      | _, _, _, _ => .error .invalidEscape
    | _ => .error .invalidEscape

structure Escape where
  char : Except Fault Char
  rest : List Symbol

def lowHalf (high : Nat) (afterHigh : List Symbol) : Escape :=
  match afterHigh with
  | [] => ⟨.error .eofString, afterHigh⟩
  | [.char '\\'] => ⟨.error .eofString, afterHigh⟩
  | .char '\\' :: .char 'u' :: s =>
    match hexUnit s with
    | .error fault => ⟨.error fault, afterHigh⟩
    | .ok (low, rest) =>
      if 0xDC00 ≤ low ∧ low ≤ 0xDFFF then
        ⟨.ok (Char.ofNat (0x10000 + (high - 0xD800) * 0x400 + (low - 0xDC00))), rest⟩
      else ⟨.error .loneSurrogate, afterHigh⟩
  | _ => ⟨.error .unendedSurrogate, afterHigh⟩

def unicodeEscape (s : List Symbol) : Except Fault Escape :=
  match hexUnit s with
  | .error fault => .error fault
  | .ok (unit, rest) =>
    if 0xDC00 ≤ unit ∧ unit ≤ 0xDFFF then .ok ⟨.error .loneSurrogate, rest⟩
    else if 0xD800 ≤ unit ∧ unit ≤ 0xDBFF then .ok (lowHalf unit rest)
    else .ok ⟨.ok (Char.ofNat unit), rest⟩

def escape : List Symbol → Except Fault Escape
  | [] => .error .eofString
  | .char '"' :: rest => .ok ⟨.ok '"', rest⟩
  | .char '\\' :: rest => .ok ⟨.ok '\\', rest⟩
  | .char '/' :: rest => .ok ⟨.ok '/', rest⟩
  | .char 'b' :: rest => .ok ⟨.ok '\x08', rest⟩
  | .char 'f' :: rest => .ok ⟨.ok '\x0c', rest⟩
  | .char 'n' :: rest => .ok ⟨.ok '\n', rest⟩
  | .char 'r' :: rest => .ok ⟨.ok '\r', rest⟩
  | .char 't' :: rest => .ok ⟨.ok '\t', rest⟩
  | .char 'u' :: rest => unicodeEscape rest
  | _ => .error .invalidEscape

/- What a string holds so far: its characters in reverse, whether stray bytes stand among them, and
the first escape that stands for no character. -/
structure Held where
  chars : List Char
  stray : Bool
  fault : Option Fault

namespace Held

def text (h : Held) : Except Fault String :=
  match h.fault with
  | some fault => .error fault
  | none => if h.stray then .error .invalidUnicode else .ok (String.ofList h.chars.reverse)

def broken (h : Held) (fault : Fault) : Literal := ⟨.error (h.fault.getD fault), some fault⟩

def add (h : Held) : Except Fault Char → Held
  | .ok c => { h with chars := c :: h.chars }
  | .error fault => { h with fault := h.fault.or (some fault) }

end Held

def stringFrom : Nat → Held → List Symbol → Literal × Option (List Symbol)
  | 0, held, _ => (held.broken .eofString, none)
  | _ + 1, held, [] => (held.broken .eofString, none)
  | fuel + 1, held, .stray _ :: rest => stringFrom fuel { held with stray := true } rest
  | fuel + 1, held, .char c :: rest =>
    if c = '"' then (⟨held.text, none⟩, some rest)
    else if c = '\\' then
      match escape rest with
      | .error fault => (held.broken fault, none)
      | .ok e => stringFrom fuel (held.add e.char) e.rest
    else if c.toNat < 0x20 then (held.broken .controlCharacter, none)
    else stringFrom fuel (held.add (.ok c)) rest

def string (s : List Symbol) : Literal × Option (List Symbol) :=
  stringFrom (s.length + 1) ⟨[], false, none⟩ s

structure Scaled where
  significand : Nat
  exponent : Int
  deriving Repr

def absorb : Nat → List Symbol → Nat × List Symbol
  | n, [] => (n, [])
  | n, d :: rest =>
    if n * 10 + digitValue d < 18446744073709551616 then absorb (n * 10 + digitValue d) rest else (n, d :: rest)

/- The digits before and after the point. Digits that no longer fit count only when they stand
before the point, as powers of ten. -/
def scaled (whole fraction : List Symbol) : Scaled :=
  let (n, left) := absorb 0 whole
  let (m, unread) := absorb n fraction
  ⟨m, (left.length : Int) - (fraction.length - unread.length : Nat)⟩

/- A significand times a power of ten as a double, in steps that each stay within the range of the
powers of ten that a double holds. -/
def scaleFrom : Nat → Binary64 → Int → Except Fault Binary64
  | 0, x, _ => .ok x
  | fuel + 1, x, e =>
    if e.natAbs ≤ 308 then
      if e < 0 then .ok (x.overPowerOfTen e.natAbs)
      else
        let y := x.timesPowerOfTen e.natAbs
        if y.isFinite then .ok y else .error .numberOutOfRange
    else if x.isZero then .ok x
    else if 0 ≤ e then .error .numberOutOfRange
    else scaleFrom fuel (x.overPowerOfTen 308) (e + 308)

def toNumber (negative : Bool) (x : Binary64) : Except Fault Number :=
  let y := if negative then x.negate else x
  if h : y.isFinite = true then .ok (.float y h) else .error .numberOutOfRange

def floatOf (negative : Bool) (s : Scaled) : Except Fault Number := do
  toNumber negative (← scaleFrom (s.exponent.natAbs + 1) (.ofNat s.significand) s.exponent)

def wholeOf (negative : Bool) (digits : List Symbol) : Except Fault Number :=
  let (n, left) := absorb 0 digits
  if left.isEmpty then
    let exact := if negative then WholeNumber.ofNegative? n else WholeNumber.ofNat? n
    match exact with
    | some w => .ok (.whole w)
    | none => toNumber negative (.ofNat n)
  else floatOf negative ⟨n, left.length⟩

def natOf (digits : List Symbol) : Nat := digits.foldl (fun n d => n * 10 + digitValue d) 0

/- The fault of a number that lacks a digit: a strict reader names the end of the text. -/
def brokenNumber (rest : List Symbol) : Tree × Option (List Symbol) :=
  (.number (.error (if rest.isEmpty then .eofValue else .invalidNumber)) (some .invalidNumber), none)

def exponentFrom (negative : Bool) (whole fraction s : List Symbol) :
    Tree × Option (List Symbol) :=
  let (down, s) : Bool × List Symbol :=
    match s with
    | .char '+' :: rest => (false, rest)
    | .char '-' :: rest => (true, rest)
    | _ => (false, s)
  let digits := s.takeWhile isDigit
  let rest := s.dropWhile isDigit
  if digits.isEmpty then brokenNumber rest
  else
    let base := scaled whole fraction
    let e : Int := natOf digits
    (.number (floatOf negative { base with exponent := base.exponent + if down then -e else e }) none,
      some rest)

def startsExponent : List Symbol → Option (List Symbol)
  | .char 'e' :: rest => some rest
  | .char 'E' :: rest => some rest
  | _ => none

def unsigned (negative : Bool) (s : List Symbol) : Tree × Option (List Symbol) :=
  let whole := s.takeWhile isDigit
  let rest := s.dropWhile isDigit
  match whole with
  | [] => brokenNumber rest
  | .char '0' :: _ :: _ => brokenNumber whole
  | _ =>
    match rest with
    | .char '.' :: rest =>
      let fraction := rest.takeWhile isDigit
      let rest := rest.dropWhile isDigit
      if fraction.isEmpty then brokenNumber rest
      else
        match startsExponent rest with
        | some rest => exponentFrom negative whole fraction rest
        | none => (.number (floatOf negative (scaled whole fraction)) none, some rest)
    | _ =>
      match startsExponent rest with
      | some rest => exponentFrom negative whole [] rest
      | none => (.number (wholeOf negative whole) none, some rest)

def word (value : Tree) : List Char → List Symbol → Tree × Option (List Symbol)
  | [], s => (value, some s)
  | _ :: _, [] => (.word .eofValue, none)
  | c :: cs, x :: rest => if x = .char c then word value cs rest else (.word .expectedWord, none)

mutual

def value : Nat → List Symbol → Tree × Option (List Symbol)
  | 0, _ => (.absent, none)
  | fuel + 1, s =>
    match s with
    | [] => (.absent, none)
    | .stray _ :: _ => (.foreign, none)
    | .char c :: rest =>
      if c = 'n' then word .null ['u', 'l', 'l'] rest
      else if c = 't' then word (.bool true) ['r', 'u', 'e'] rest
      else if c = 'f' then word (.bool false) ['a', 'l', 's', 'e'] rest
      else if c = '-' then unsigned true rest
      else if c.isDigit then unsigned false s
      else if c = '"' then
        let (literal, rest) := string rest
        (.string literal, rest)
      else if c = '[' then
        let (items, stop, rest) := arrayFrom fuel (skipBlank rest)
        (.array items stop, rest)
      else if c = '\x7b' then
        let (members, stop, rest) := objectFrom fuel (skipBlank rest)
        (.object members stop, rest)
      else (.foreign, none)

def arrayFrom : Nat → List Symbol → List Tree × ArrayEnd × Option (List Symbol)
  | 0, _ => ([], .eof, none)
  | fuel + 1, s =>
    match s with
    | [] => ([], .eof, none)
    | .char ']' :: rest => ([], .closed, some rest)
    | _ => items fuel s

def items : Nat → List Symbol → List Tree × ArrayEnd × Option (List Symbol)
  | 0, _ => ([], .eof, none)
  | fuel + 1, s =>
    match value fuel s with
    | (item, none) => ([item], .eof, none)
    | (item, some rest) =>
      match skipBlank rest with
      | [] => ([item], .eof, none)
      | .char ']' :: rest => ([item], .closed, some rest)
      | .char ',' :: rest =>
        match skipBlank rest with
        | [] => ([item], .eofAfterComma, none)
        | .char ']' :: _ => ([item], .afterComma, none)
        | next =>
          let (more, stop, rest) := items fuel next
          (item :: more, stop, rest)
      | _ => ([item], .garbage, none)

def objectFrom : Nat → List Symbol →
    List (Literal × Tree) × ObjectEnd × Option (List Symbol)
  | 0, _ => ([], .eof, none)
  | fuel + 1, s =>
    match s with
    | [] => ([], .eof, none)
    | .char '\x7d' :: rest => ([], .closed, some rest)
    | .char '"' :: rest => members fuel rest
    | _ => ([], .badKey (value fuel s).1.found, none)

def members : Nat → List Symbol →
    List (Literal × Tree) × ObjectEnd × Option (List Symbol)
  | 0, _ => ([], .eof, none)
  | fuel + 1, s =>
    match string s with
    | (key, none) => ([(key, .absent)], .eof, none)
    | (key, some rest) =>
      match skipBlank rest with
      | [] => ([(key, .uncolon .eofObject)], .eof, none)
      | .char ':' :: rest =>
        match value fuel (skipBlank rest) with
        | (item, none) => ([(key, item)], .eof, none)
        | (item, some rest) =>
          match skipBlank rest with
          | [] => ([(key, item)], .eof, none)
          | .char '\x7d' :: rest => ([(key, item)], .closed, some rest)
          | .char ',' :: rest =>
            match skipBlank rest with
            | [] => ([(key, item)], .eofAfterComma, none)
            | .char '\x7d' :: _ => ([(key, item)], .afterComma, none)
            | .char '"' :: rest =>
              let (more, stop, rest) := members fuel rest
              ((key, item) :: more, stop, rest)
            | next => ([(key, item)], .badKey (value fuel next).1.found, none)
          | _ => ([(key, item)], .garbage, none)
      | _ => ([(key, .uncolon .expectedColon)], .eof, none)

end

end Reader

def Tree.read (s : List Symbol) : Tree × Option (List Symbol) :=
  Reader.value (2 * s.length + 4) (Reader.skipBlank s)

end FeatureStore.Json
