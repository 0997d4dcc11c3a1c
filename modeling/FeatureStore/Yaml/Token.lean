import FeatureStore.Yaml.Scalar
import FeatureStore.Yaml.Tag

/-!
The tokens of a YAML text. Blocks have no marks of their own: a block begins where a line is indented
further than the block around it, and ends where one is indented less. A key is known by the colon
behind it, so its token is put in front of what has been read already; a key that needs no question
mark stands on one line and is not too long.
-/
namespace FeatureStore.Yaml

inductive Token where
  | directive (d : Directive)
  | documentStart
  | documentEnd
  | sequenceStart
  | mappingStart
  | blockEnd
  | openSequence
  | closeSequence
  | openMapping
  | closeMapping
  | item
  | comma
  | key
  | value
  | anchor (name : List Char)
  | reference (name : List Char)
  | tag (t : Tag)
  | scalar (plain : Bool) (text : List Char)
  deriving DecidableEq, Repr

structure KeyStart where
  isRequired : Bool
  place : Place
  token : Nat

namespace KeyStart

def maxLength : Nat := 1024

def isStale (k : KeyStart) (now : Place) : Bool :=
  k.place.line < now.line || k.place.index + maxLength < now.index

end KeyStart

structure Lexer where
  place : Place
  tokens : Array Token
  -- The columns of the blocks around this place, the innermost first.
  columns : List Nat
  blockKey : Option KeyStart
  -- The keys that may have begun inside of brackets, those in the innermost first.
  flowKeys : List (Option KeyStart)
  -- Whether a key without a question mark may begin here.
  keyAllowed : Bool

namespace Lexer

def start (text : List Char) : Lexer := ⟨.start text, #[], [], none, [], true⟩

def inFlow (l : Lexer) : Bool := !l.flowKeys.isEmpty

def least (l : Lexer) : Nat :=
  match l.columns with
  | [] => 0
  | column :: _ => column + 1

def emit (t : Token) (l : Lexer) : Lexer := { l with tokens := l.tokens.push t }

def emitMark (t : Token) (l : Lexer) : Lexer := { l.emit t with place := l.place.step }

def allowKey (allowed : Bool) (l : Lexer) : Lexer := { l with keyAllowed := allowed }

def keyStart (l : Lexer) : Option KeyStart :=
  match l.flowKeys with
  | [] => l.blockKey
  | k :: _ => k

def setKey (k : Option KeyStart) (l : Lexer) : Lexer :=
  match l.flowKeys with
  | [] => { l with blockKey := k }
  | _ :: outer => { l with flowKeys := k :: outer }

def dropKey (l : Lexer) : Option Lexer :=
  match l.keyStart with
  | some k => if k.isRequired then none else some (l.setKey none)
  | none => some l

def dropStale (l : Lexer) : Option Lexer :=
  let fresh (k : Option KeyStart) : Option KeyStart := k.filter (!·.isStale l.place)
  let fault (k : Option KeyStart) : Bool :=
    match k with
    | some k => k.isRequired && k.isStale l.place
    | none => false
  if fault l.blockKey || l.flowKeys.any fault then none
  else some { l with blockKey := fresh l.blockKey, flowKeys := l.flowKeys.map fresh }

def noteKey (l : Lexer) : Option Lexer :=
  if l.keyAllowed then do
    let required := !l.inFlow && l.columns.head? == some l.place.column
    let l ← l.dropKey
    some (l.setKey (some ⟨required, l.place, l.tokens.size⟩))
  else some l

/- Begins a block in a column, if it is further right than the block around it; its token is put
before the token of the given number. -/
def openBlock (column : Nat) (before : Nat) (t : Token) (l : Lexer) : Lexer :=
  if l.inFlow || column < l.least then l
  else { l with columns := column :: l.columns, tokens := l.tokens.insertIdxIfInBounds before t }

def closeAll (test : Nat → Bool) : List Nat → Array Token → List Nat × Array Token
  | [], tokens => ([], tokens)
  | column :: outer, tokens =>
    if test column then closeAll test outer (tokens.push .blockEnd) else (column :: outer, tokens)

def closeBlocks (test : Nat → Bool) (l : Lexer) : Lexer :=
  if l.inFlow then l
  else
    let (columns, tokens) := closeAll test l.columns l.tokens
    { l with columns := columns, tokens := tokens }

/- The next token's place: behind blanks, line ends and comments. A tab indents no key. A mark of byte
order may begin a line, and a line may begin a key. -/
def skip : Nat → Lexer → Lexer
  | 0, l => l
  | fuel + 1, l =>
    let p := l.place
    let p := if p.column == 0 && p.startsWith '\ufeff' then p.step else p
    let p := p.skip fun c => c == ' ' || (c == '\t' && (l.inFlow || !l.keyAllowed))
    let p := if p.startsWith '#' then p.skip (!isBreak ·) else p
    if !p.rest.isEmpty && endsLine p.rest then
      skip fuel { l with place := p.stepLine, keyAllowed := l.keyAllowed || !l.inFlow }
    else { l with place := p }

def betweenDocuments (l : Lexer) : Option Lexer := do
  some ((← (l.closeBlocks fun _ => true).dropKey).allowKey false)

def directive (l : Lexer) : Option Lexer := do
  let l ← l.betweenDocuments
  let (d, p) ← Directive.scan? l.place
  some { l.emit (.directive d) with place := p }

def marker (t : Token) (l : Lexer) : Option Lexer := do
  let l ← l.betweenDocuments
  some { l.emit t with place := l.place.steps 3 }

def openFlow (t : Token) (l : Lexer) : Option Lexer := do
  let l ← l.noteKey
  some (({ l with flowKeys := none :: l.flowKeys }.allowKey true).emitMark t)

def closeFlow (t : Token) (l : Lexer) : Option Lexer := do
  let l ← l.dropKey
  some (({ l with flowKeys := l.flowKeys.drop 1 }.allowKey false).emitMark t)

def comma (l : Lexer) : Option Lexer := do
  some (((← l.dropKey).allowKey true).emitMark .comma)

def item (l : Lexer) : Option Lexer := do
  if !l.inFlow && !l.keyAllowed then none
  else
    let l ← (l.openBlock l.place.column l.tokens.size .sequenceStart).dropKey
    some ((l.allowKey true).emitMark .item)

def questionMark (l : Lexer) : Option Lexer := do
  if !l.inFlow && !l.keyAllowed then none
  else
    let l ← (l.openBlock l.place.column l.tokens.size .mappingStart).dropKey
    some ((l.allowKey (!l.inFlow)).emitMark .key)

def colon (l : Lexer) : Option Lexer :=
  match l.keyStart with
  | some k =>
    let l := { l with tokens := l.tokens.insertIdxIfInBounds k.token .key }
    let l := (l.openBlock k.place.column k.token .mappingStart).setKey none
    some ((l.allowKey false).emitMark .value)
  | none =>
    if !l.inFlow && !l.keyAllowed then none
    else
      let l := l.openBlock l.place.column l.tokens.size .mappingStart
      some ((l.allowKey (!l.inFlow)).emitMark .value)

def endsName : List Char → Bool
  | [] => true
  | c :: rest => isGap (c :: rest) || "?:,]\x7d%@".toList.contains c || c.toNat == 0x60

def named (t : List Char → Token) (l : Lexer) : Option Lexer := do
  let l ← l.noteKey
  let name := l.place.step.wordOf isWord
  let after := l.place.step.steps name.length
  if name.isEmpty || !endsName after.rest then none
  else some { (l.allowKey false).emit (t name) with place := after }

def tag (l : Lexer) : Option Lexer := do
  let l ← l.noteKey
  let (t, p) ← Tag.scan? l.inFlow l.place
  some { (l.allowKey false).emit (.tag t) with place := p }

def blockText (folded : Bool) (l : Lexer) : Option Lexer := do
  let l ← l.dropKey
  let (text, p) ← block? folded l.least l.place.step
  some { (l.allowKey true).emit (.scalar false text) with place := p }

def quotedText (q : Quotes) (l : Lexer) : Option Lexer := do
  let l ← l.noteKey
  let (text, p) ← quoted? q l.place.step
  some { (l.allowKey false).emit (.scalar false text) with place := p }

def plainText (l : Lexer) : Option Lexer := do
  let l ← l.noteKey
  let found ← plain? l.inFlow l.least l.place
  some { (l.allowKey found.endedLine).emit (.scalar true found.text) with place := found.place }

def isIndicator (c : Char) : Bool :=
  isFlowIndicator c || "-?:#&*!|>'\"%@".toList.contains c || c.toNat == 0x60

def startsPlain (flow : Bool) : List Char → Bool
  | [] => false
  | c :: rest =>
    !(isBlank c || isBreak c || isIndicator c) ||
      (c == '-' && !(rest.head?.map isBlank).getD false) ||
      (!flow && (c == '?' || c == ':') && !isGap rest)

def token (l : Lexer) : Option Lexer :=
  match l.place.rest with
  | [] => none
  | c :: rest =>
    if l.place.column == 0 && c == '%' then l.directive
    else if l.place.atMarker then l.marker (if c == '-' then .documentStart else .documentEnd)
    else if c == '[' then l.openFlow .openSequence
    else if c == '\x7b' then l.openFlow .openMapping
    else if c == ']' then l.closeFlow .closeSequence
    else if c == '\x7d' then l.closeFlow .closeMapping
    else if c == ',' then l.comma
    else if c == '-' && isGap rest then l.item
    else if c == '?' && (l.inFlow || isGap rest) then l.questionMark
    else if c == ':' && (l.inFlow || isGap rest) then l.colon
    else if c == '*' then l.named .reference
    else if c == '&' then l.named .anchor
    else if c == '!' then l.tag
    else if c == '|' && !l.inFlow then l.blockText false
    else if c == '>' && !l.inFlow then l.blockText true
    else if c == '\'' then l.quotedText .single
    else if c == '"' then l.quotedText .double
    else if startsPlain l.inFlow l.place.rest then l.plainText
    else none

def run : Nat → Lexer → Option (Array Token)
  | 0, _ => none
  | fuel + 1, l => do
    let l ← (l.skip (fuel + 1)).dropStale
    let l := l.closeBlocks fun column => l.place.column < column
    if l.place.rest.isEmpty then some (← l.betweenDocuments).tokens
    else run fuel (← l.token)

end Lexer

def tokens? (text : List Char) : Option (List Token) :=
  (Lexer.run (text.length + 1) (.start text)).map Array.toList

end FeatureStore.Yaml
