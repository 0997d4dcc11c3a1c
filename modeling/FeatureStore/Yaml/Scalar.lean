import FeatureStore.Yaml.Place

/-!
Scalars of YAML: plain, quoted and block text. Every function reads from some place on and returns the
text together with the place behind it. Lines of a plain or quoted text are folded: one line end is a
space, and of several the first is left out.
-/
namespace FeatureStore.Yaml

inductive Gap where
  | blanks (text : List Char)
  | lines (first more : List Char)
  deriving DecidableEq, Repr

namespace Gap

def isLines : Gap → Bool
  | blanks _ => false
  | lines _ _ => true

def addBlank (c : Char) : Gap → Gap
  | blanks text => blanks (text ++ [c])
  | g => g

def addLine (ending : List Char) : Gap → Gap
  | blanks _ => lines ending []
  | lines first more => lines first (more ++ ending)

def text : Gap → List Char
  | blanks text => text
  | lines ['\n'] [] => [' ']
  | lines ['\n'] more => more
  | lines first more => first ++ more

end Gap

/- Reads a gap on. Behind a line end, a tab has to stand in column `least` or further right; `fuel`
exceeds the length of the text. -/
def gapFrom (least : Nat) : Nat → Gap → Place → Option (Gap × Place)
  | 0, _, _ => none
  | fuel + 1, g, p =>
    match p.rest with
    | [] => some (g, p)
    | c :: _ =>
      if isBreak c then gapFrom least fuel (g.addLine p.lineEnd) p.stepLine
      else if isBlank c then
        if g.isLines && c == '\t' && p.column < least then none
        else gapFrom least fuel (g.addBlank c) p.step
      else some (g, p)

def endsPlain (flow : Bool) : List Char → Bool
  | [] => true
  | c :: rest => isBlank c || isBreak c || (c == ':' && isGap rest) || (flow && isFlowIndicator c)

def isStrayColon : List Char → Bool
  | ':' :: c :: _ => isFlowIndicator c || c == '?'
  | _ => false

def plainWord (flow : Bool) : List Char → Option (List Char)
  | [] => some []
  | c :: rest =>
    if isBlank c || isBreak c then some []
    else if flow && isStrayColon (c :: rest) then none
    else if endsPlain flow (c :: rest) then some []
    else (plainWord flow rest).map (c :: ·)

structure Plain where
  text : List Char
  endedLine : Bool
  place : Place

def plainFrom (flow : Bool) (least : Nat) : Nat → Gap → Place → Option Plain
  | 0, _, _ => none
  | fuel + 1, g, p =>
    if p.atMarker || p.startsWith '#' then some ⟨[], g.isLines, p⟩
    else do
      let word ← plainWord flow p.rest
      if word.isEmpty then some ⟨[], g.isLines, p⟩
      else
        let p := p.steps word.length
        let (next, after) ← gapFrom least (fuel + 1) (.blanks []) p
        let more : Plain ←
          if after.index = p.index then some ⟨[], false, p⟩
          else if !flow && after.column < least then some ⟨[], next.isLines, after⟩
          else plainFrom flow least fuel next after
        some { more with text := g.text ++ word ++ more.text }

def plain? (flow : Bool) (least : Nat) (p : Place) : Option Plain :=
  plainFrom flow least (p.rest.length + 1) (.blanks []) p

def escapeOf? : Char → Option Char
  | '0' => some '\x00'
  | 'a' => some '\x07'
  | 'b' => some '\x08'
  | 't' => some '\t'
  | '\t' => some '\t'
  | 'n' => some '\n'
  | 'v' => some '\x0b'
  | 'f' => some '\x0c'
  | 'r' => some '\r'
  | 'e' => some '\x1b'
  | ' ' => some ' '
  | '"' => some '"'
  | '/' => some '/'
  | '\\' => some '\\'
  | 'N' => some '\u0085'
  | '_' => some '\u00a0'
  | 'L' => some '\u2028'
  | 'P' => some '\u2029'
  | _ => none

def digitCount? : Char → Option Nat
  | 'x' => some 2
  | 'u' => some 4
  | 'U' => some 8
  | _ => none

def escape? : List Char → Option (Char × Nat)
  | [] => none
  | c :: rest =>
    match escapeOf? c, digitCount? c with
    | some d, _ => some (d, 1)
    | none, some count => do
      let n ← hexNumber? count rest
      if n.isValidChar then some (Char.ofNat n, count + 1) else none
    | none, none => none

inductive Quotes where
  | single
  | double
  deriving DecidableEq, Repr

def Quotes.mark : Quotes → Char
  | single => '\''
  | double => '"'

/- A word of quoted text, and the gap behind it as far as an escaped line end begins one. -/
def quotedWord (q : Quotes) : Nat → Place → Option (List Char × Gap × Place)
  | 0, _ => none
  | fuel + 1, p =>
    match q, p.rest with
    | _, [] => some ([], .blanks [], p)
    | .single, '\'' :: '\'' :: _ => do
      let (word, after) ← quotedWord q fuel (p.steps 2)
      some ('\'' :: word, after)
    | .double, '\\' :: rest =>
      if !rest.isEmpty && endsLine rest then some ([], .lines [] [], p.step.stepLine)
      else do
        let (c, length) ← escape? rest
        let (word, after) ← quotedWord q fuel (p.steps (length + 1))
        some (c :: word, after)
    | _, c :: _ =>
      if isBlank c || isBreak c || c == q.mark then some ([], .blanks [], p)
      else do
        let (word, after) ← quotedWord q fuel p.step
        some (c :: word, after)

def quotedFrom (q : Quotes) : Nat → Place → Option (List Char × Place)
  | 0, _ => none
  | fuel + 1, p =>
    if p.atMarker || p.rest.isEmpty then none
    else do
      let (word, g, p) ← quotedWord q (fuel + 1) p
      if p.startsWith q.mark then some (word, p.step)
      else
        let (g, p) ← gapFrom 0 (fuel + 1) g p
        let (more, p) ← quotedFrom q fuel p
        some (word ++ g.text ++ more, p)

def quoted? (q : Quotes) (p : Place) : Option (List Char × Place) :=
  quotedFrom q (p.rest.length + 1) p

inductive Chomp where
  | strip
  | clip
  | keep
  deriving DecidableEq, Repr

def chomp? (p : Place) : Option Chomp :=
  if p.startsWith '+' then some .keep else if p.startsWith '-' then some .strip else none

def digit? (p : Place) : Option Nat :=
  match p.rest with
  | c :: _ => if c.isDigit then some (c.toNat - '0'.toNat) else none
  | [] => none

structure BlockHeader where
  chomp : Chomp
  extra : Option Nat
  deriving DecidableEq, Repr

def blockHeader? (p : Place) : Option (BlockHeader × Place) := do
  let (header, p) : BlockHeader × Place :=
    match chomp? p, digit? p with
    | some chomp, _ =>
      match digit? p.step with
      | some n => (⟨chomp, some n⟩, p.steps 2)
      | none => (⟨chomp, none⟩, p.step)
    | none, some n =>
      match chomp? p.step with
      | some chomp => (⟨chomp, some n⟩, p.steps 2)
      | none => (⟨.clip, some n⟩, p.step)
    | none, none => (⟨.clip, none⟩, p)
  if header.extra = some 0 then none else some (header, ← p.restOfLine?)

/- The empty lines before a line of block text. Spaces are skipped up to the given column, or all of
them while it is open; `deepest` is the furthest column so far. -/
def blockBreaks (indent : Option Nat) :
    Nat → Nat → List Char → Place → Option (Nat × List Char × Place)
  | 0, _, _, _ => none
  | fuel + 1, deepest, ends, p =>
    let spaces := p.wordOf (· == ' ')
    let p := p.steps (match indent with
      | some n => min spaces.length (n - p.column)
      | none => spaces.length)
    let deepest := max deepest p.column
    let outside := match indent with
      | some n => decide (p.column < n)
      | none => true
    if outside && p.startsWith '\t' then none
    else if !p.rest.isEmpty && endsLine p.rest then
      blockBreaks indent fuel deepest (ends ++ p.lineEnd) p.stepLine
    else some (deepest, ends, p)

/- The line end between two lines, and the empty lines behind it. In folded text a usual line end
becomes a space, unless an empty line follows or one of the lines begins with a blank. -/
def blockJoin (folded : Bool) (deeper : Bool) (first more : List Char) : List Char :=
  if folded && !deeper && first == ['\n'] then if more.isEmpty then [' '] else more
  else first ++ more

/- Block text from a line on: `first` and `more` are the line ends before it, and `deeper` tells
whether the line before begins with a blank. The line ends behind the last line come with the text. -/
def blockFrom (folded : Bool) (indent : Nat) :
    Nat → Bool → List Char → List Char → Place →
      Option (List Char × List Char × List Char × Place)
  | 0, _, _, _, _ => none
  | fuel + 1, deeper, first, more, p =>
    if p.column != indent || p.rest.isEmpty then some ([], first, more, p)
    else do
      let blank := (p.rest.head?.map isBlank).getD false
      let line := p.wordOf (!isBreak ·)
      let join := blockJoin folded (deeper || blank) first more
      let p := p.steps line.length
      let (_, ends, after) ← blockBreaks (some indent) (fuel + 1) 0 [] p.stepLine
      let (text, last) ← blockFrom folded indent fuel blank p.lineEnd ends after
      some (join ++ line ++ text, last)

def block? (folded : Bool) (least : Nat) (p : Place) : Option (List Char × Place) := do
  let (header, p) ← blockHeader? p
  let known := header.extra.map (· + (least - 1))
  let (deepest, more, p) ← blockBreaks known (p.rest.length + 1) 0 [] p
  let indent := known.getD (max deepest (max least 1))
  let (text, first, more, p) ← blockFrom folded indent (p.rest.length + 1) false [] more p
  match header.chomp with
  | .strip => some (text, p)
  | .clip => some (text ++ first, p)
  | .keep => some (text ++ first ++ more, p)

end FeatureStore.Yaml
