import FeatureStore.Yaml.Token

/-!
Reading a YAML document from its tokens. A value may have a type and a name, and a reference stands for
the value of that name. A text holds at most one document.
-/
namespace FeatureStore

inductive Yaml where
  | scalar (type : Option String) (plain : Bool) (text : String)
  | sequence (type : Option String) (items : List Yaml)
  | mapping (type : Option String) (entries : List (Yaml × Yaml))
  | reference (number : Nat)
  deriving Repr

namespace Yaml

def nothing : Yaml := .scalar none true ""

structure Document where
  root : Yaml
  values : List (Nat × Yaml)

/- The value behind a reference. A value has no reference for its whole, so one look is enough. -/
def Document.resolve (d : Document) : Yaml → Yaml
  | .reference n => (d.values.lookup n).getD nothing
  | y => y

def Document.text? (d : Document) (y : Yaml) : Option String :=
  match d.resolve y with
  | .scalar _ _ text => some text
  | _ => none

structure Source where
  tokens : List Token
  stems : List (List Char × Bytes)
  names : List (List Char × Nat)
  count : Nat
  numbered : List (Nat × Nat)
  values : List (Nat × Yaml)

abbrev Read (α : Type) := StateT Source Option α

def fail : Read α := fun _ => none

def peek : Read (Option Token) := do return (← get).tokens.head?

def advance : Read Unit := modify fun s => { s with tokens := s.tokens.drop 1 }

def expect (t : Token) : Read Unit := do
  if (← peek) == some t then advance else fail

def accept (t : Token) : Read Bool := do
  if (← peek) == some t then
    advance
    return true
  else return false

def isAt (ts : List Token) : Read Bool := do
  match ← peek with
  | some t => return ts.contains t
  | none => return false

def fullTag (t : Tag) : Read Bytes := do
  if t.handle.isEmpty then return t.word
  else
    match (← get).stems.lookup t.handle with
    | some stem => return stem ++ t.word
    | none => fail

def ownType? : Bytes → Option String
  | 33 :: name => String.fromUTF8? name.toByteArray
  | _ => none

structure Properties where
  anchor : Option (List Char)
  tag : Option Bytes

namespace Properties

def none : Properties := ⟨.none, .none⟩

def isEmpty (p : Properties) : Bool := p.anchor.isNone && p.tag.isNone

def type (p : Properties) : Option String := p.tag.bind ownType?

end Properties

def anchor? : Read (Option (List Char)) := do
  match ← peek with
  | some (.anchor name) =>
    advance
    return some name
  | _ => return none

def tag? : Read (Option Tag) := do
  match ← peek with
  | some (.tag t) =>
    advance
    return some t
  | _ => return none

def properties : Read Properties := do
  let before ← anchor?
  let tag ← tag?
  let after ← if before.isNone then anchor? else pure none
  match tag with
  | some t => return ⟨before.or after, some (← fullTag t)⟩
  | none => return ⟨before.or after, none⟩

/- Puts a name in force, and tells which of the named values it is. The number of a name is how many
names there were when it was given last. -/
def enter (p : Properties) : Read (Option Nat) := do
  match p.anchor with
  | none => return none
  | some name =>
    let s ← get
    let number := s.names.length
    let others := s.names.filter (·.1 != name)
    set { s with
      names := (name, number) :: others
      count := s.count + 1
      numbered := (number, s.count) :: s.numbered }
    return some s.count

def leave (which : Option Nat) (y : Yaml) : Read Yaml := do
  match which with
  | none => return y
  | some n =>
    modify fun s => { s with values := (n, y) :: s.values }
    return y

inductive Context where
  | flow
  | block
  -- Behind a key or its value's colon, where the items of a sequence need no block of their own.
  | entry
  deriving DecidableEq

mutual

def value : Nat → Context → Read Yaml
  | 0, _ => fail
  | fuel + 1, context => do
    match ← peek with
    | some (.reference name) =>
      match (← get).names.lookup name with
      | some number =>
        advance
        return .reference number
      | none => fail
    | _ =>
      let p ← properties
      let which ← enter p
      leave which (← body fuel context p)

def body : Nat → Context → Properties → Read Yaml
  | 0, _, _ => fail
  | fuel + 1, context, p => do
    match ← peek with
    | some (.scalar plain text) =>
      advance
      return .scalar p.type plain (String.ofList text)
    | some .openSequence =>
      advance
      return .sequence p.type (← flowItems fuel)
    | some .openMapping =>
      advance
      return .mapping p.type (← flowEntries fuel)
    | some .sequenceStart =>
      if context == .flow then fail
      else
        advance
        let items ← blockItems fuel
        expect .blockEnd
        return .sequence p.type items
    | some .mappingStart =>
      if context == .flow then fail
      else
        advance
        let entries ← blockEntries fuel
        expect .blockEnd
        return .mapping p.type entries
    | some .item =>
      if context == .entry then return .sequence p.type (← openItems fuel)
      else if p.isEmpty then fail
      else return .scalar p.type true ""
    | _ => if p.isEmpty then fail else return .scalar p.type true ""

def valueUnless : Nat → Context → List Token → Read Yaml
  | 0, _, _ => fail
  | fuel + 1, context, ends => do
    if ← isAt ends then return nothing else value fuel context

def blockItems : Nat → Read (List Yaml)
  | 0 => fail
  | fuel + 1 => do
    if ← accept .item then
      let y ← valueUnless fuel .block [.item, .blockEnd]
      return y :: (← blockItems fuel)
    else return []

def openItems : Nat → Read (List Yaml)
  | 0 => fail
  | fuel + 1 => do
    if ← accept .item then
      let y ← valueUnless fuel .block [.item, .key, .value, .blockEnd]
      return y :: (← openItems fuel)
    else return []

def blockEntries : Nat → Read (List (Yaml × Yaml))
  | 0 => fail
  | fuel + 1 => do
    if ← accept .key then
      let k ← valueUnless fuel .entry [.key, .value, .blockEnd]
      let v ←
        if ← accept .value then valueUnless fuel .entry [.key, .value, .blockEnd] else pure nothing
      return (k, v) :: (← blockEntries fuel)
    else return []

/- The items behind an opening bracket or a comma. An item may be an entry of its own; a question mark
without a key behind it takes the next mark along. -/
def flowItems : Nat → Read (List Yaml)
  | 0 => fail
  | fuel + 1 => do
    if ← accept .closeSequence then return []
    else
      let y ←
        if ← accept .key then do
          let k ←
            if ← isAt [.value, .comma, .closeSequence] then do
              advance
              pure nothing
            else value fuel .flow
          let v ←
            if ← accept .value then valueUnless fuel .flow [.comma, .closeSequence] else pure nothing
          pure (Yaml.mapping none [(k, v)])
        else value fuel .flow
      if ← accept .comma then return y :: (← flowItems fuel)
      else
        expect .closeSequence
        return [y]

def flowEntries : Nat → Read (List (Yaml × Yaml))
  | 0 => fail
  | fuel + 1 => do
    if ← accept .closeMapping then return []
    else
      let entry ←
        if ← accept .key then do
          let k ← valueUnless fuel .flow [.value, .comma, .closeMapping]
          let v ←
            if ← accept .value then valueUnless fuel .flow [.comma, .closeMapping] else pure nothing
          pure (k, v)
        else do
          pure (← value fuel .flow, nothing)
      if ← accept .comma then return entry :: (← flowEntries fuel)
      else
        expect .closeMapping
        return [entry]

end

def isKnownVersion (major minor : Nat) : Bool := major == 1 && (minor == 1 || minor == 2)

def directives : Nat → Bool → List (List Char × Bytes) → Read (List (List Char × Bytes))
  | 0, _, _ => fail
  | fuel + 1, versioned, stems => do
    match ← peek with
    | some (.directive (.version major minor)) =>
      if versioned || !isKnownVersion major minor then fail
      else
        advance
        directives fuel true stems
    | some (.directive (.handle name stem)) =>
      if (stems.lookup name).isSome then fail
      else
        advance
        directives fuel versioned ((name, stem) :: stems)
    | _ => return stems

def standardStems : List (List Char × Bytes) :=
  [(['!'], bytesOf ['!']), (['!', '!'], bytesOf "tag:yaml.org,2002:".toList)]

def isBetween : Read Bool := do
  match ← peek with
  | none | some (.directive _) | some .documentStart | some .documentEnd => return true
  | some _ => return false

def documentEnds : Nat → Read Unit
  | 0 => fail
  | fuel + 1 => do
    if ← accept .documentEnd then documentEnds fuel else return ()

def markedDocument (fuel : Nat) : Read Yaml := do
  let stems ← directives fuel false []
  expect .documentStart
  modify fun s => { s with stems := stems ++ standardStems }
  if ← isBetween then return nothing else value fuel .block

def plainDocument (fuel : Nat) : Read Yaml := do
  modify fun s => { s with stems := standardStems }
  value fuel .block

def document (fuel : Nat) : Read Yaml := do
  let y ←
    match ← peek with
    | none => pure nothing
    | some (.directive _) | some .documentStart => markedDocument fuel
    | some _ => plainDocument fuel
  documentEnds fuel
  if (← peek).isNone then return y else fail

def read? (s : String) : Option Document := do
  let text := s.toList
  if text.all isAllowed then
    let tokens ← tokens? text
    let (root, s) ← (document (4 * tokens.length + 16)).run ⟨tokens, [], [], 0, [], []⟩
    some ⟨root, s.numbered.filterMap fun n => (s.values.lookup n.2).map (n.1, ·)⟩
  else none

end Yaml
end FeatureStore
