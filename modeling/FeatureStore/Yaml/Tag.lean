import FeatureStore.Yaml.Place

/-!
Tags and directives of YAML. A tag names the type of a value by a handle and a word behind it; a
directive says which words a handle stands for, or which version of YAML a document is written in. The
word is kept as bytes, because any byte may be written by its number.
-/
namespace FeatureStore.Yaml

abbrev Bytes := List UInt8

def bytesOf (s : List Char) : Bytes := (String.ofList s).toUTF8.data.toList

def isTagChar (wide : Bool) (c : Char) : Bool :=
  isWord c || ";/?:@&=+$.%!~*'()".toList.contains c || (wide && ",[]".toList.contains c)

def widthOf? (b : Nat) : Option Nat :=
  if b < 0x80 then some 1
  else if 0xC0 ≤ b && b < 0xE0 then some 2
  else if 0xE0 ≤ b && b < 0xF0 then some 3
  else if 0xF0 ≤ b && b < 0xF8 then some 4
  else none

def escapedByte? (p : Place) : Option Nat :=
  if p.startsWith '%' then hexNumber? 2 (p.rest.drop 1) else none

def escapedTail : Nat → Place → Option (Bytes × Place)
  | 0, p => some ([], p)
  | n + 1, p => do
    let b ← escapedByte? p
    if 0x80 ≤ b && b < 0xC0 then
      let (more, p) ← escapedTail n (p.steps 3)
      some (UInt8.ofNat b :: more, p)
    else none

def escapedChar? (p : Place) : Option (Bytes × Place) := do
  let b ← escapedByte? p
  let width ← widthOf? b
  let (more, p) ← escapedTail (width - 1) (p.steps 3)
  some (UInt8.ofNat b :: more, p)

def tagWordFrom (wide : Bool) : Nat → Bytes → Place → Option (Bytes × Place)
  | 0, _, _ => none
  | fuel + 1, held, p =>
    match p.rest with
    | [] => some (held, p)
    | c :: _ =>
      if c == '%' then do
        let (bytes, p) ← escapedChar? p
        tagWordFrom wide fuel (held ++ bytes) p
      else if isTagChar wide c then tagWordFrom wide fuel (held ++ [c.toNat.toUInt8]) p.step
      else some (held, p)

def tagWord? (wide : Bool) (p : Place) : Option (Bytes × Place) :=
  tagWordFrom wide (p.rest.length + 1) [] p

/- A word ends where its first zero byte stands. -/
def untilZero (word : Bytes) : Bytes := word.takeWhile (· != 0)

structure Tag where
  handle : List Char
  word : Bytes
  deriving DecidableEq, Repr

namespace Tag

def handleAt (p : Place) : List Char × Place :=
  let name := p.step.wordOf isWord
  let after := p.step.steps name.length
  if after.startsWith '!' then ('!' :: name ++ ['!'], after.step) else ('!' :: name, after)

def isClosed (handle : List Char) : Bool := 1 < handle.length && handle.getLast? == some '!'

def scan? (flow : Bool) (p : Place) : Option (Tag × Place) := do
  let (tag, p) : Tag × Place ← do
    if p.step.startsWith '<' then
      let (word, p) ← tagWord? true (p.steps 2)
      if word.isEmpty then none
      else some (⟨[], untilZero word⟩, ← p.expect? '>')
    else
      let (handle, p) := handleAt p
      let (word, p) ← tagWord? false p
      if isClosed handle then
        if word.isEmpty then none else some (⟨handle, untilZero word⟩, p)
      else
        match untilZero (bytesOf (handle.drop 1) ++ word) with
        | [] => some (⟨[], bytesOf ['!']⟩, p)
        | word => some (⟨['!'], word⟩, p)
  if isGap p.rest || (flow && p.startsWith ',') then some (tag, p) else none

end Tag

inductive Directive where
  | version (major minor : Nat)
  | handle (name : List Char) (stem : Bytes)
  deriving DecidableEq, Repr

namespace Directive

def number? (p : Place) : Option (Nat × Place) :=
  let digits := p.wordOf Char.isDigit
  if digits.isEmpty || 9 < digits.length then none
  else some (digits.foldl (fun n d => n * 10 + (d.toNat - '0'.toNat)) 0, p.steps digits.length)

def version? (p : Place) : Option (Directive × Place) := do
  let (major, p) ← number? p
  let (minor, p) ← number? (← p.expect? '.')
  some (version major minor, p)

def handle? (p : Place) : Option (Directive × Place) := do
  let _ ← p.expect? '!'
  let (name, p) := Tag.handleAt p
  if !Tag.isClosed name && name != ['!'] then none
  else
    let blanks := p.wordOf isBlank
    if blanks.isEmpty then none
    else
      let (stem, p) ← tagWord? true (p.steps blanks.length)
      if stem.isEmpty || !isGap p.rest then none else some (handle name (untilZero stem), p)

def scan? (p : Place) : Option (Directive × Place) := do
  let name := p.step.wordOf isWord
  let after := p.step.steps name.length
  if !isGap after.rest then none
  else
    let after := after.skip isBlank
    let (directive, p) ←
      if name == "YAML".toList then version? after
      else if name == "TAG".toList then handle? after
      else none
    some (directive, ← p.restOfLine?)

end Directive
end FeatureStore.Yaml
