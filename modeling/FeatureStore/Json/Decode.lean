import FeatureStore.Json.Reader

/-!
Reading typed values from a `Tree`. A decoder meets the faults of the text and the faults of the
shape in the order in which they stand; only a missing field is found at the end of its object. The
depth counts how many arrays and objects may still be entered.
-/
namespace FeatureStore.Json

abbrev Decoder (α : Type) := Nat → Tree → Except Fault α

def maxDepth : Nat := 128

def enter : Nat → Except Fault Nat
  | 0 | 1 => .error .tooDeep
  | depth + 1 => .ok depth

def orFault (value : α) : Option Fault → Except Fault α
  | none => .ok value
  | some fault => .error fault

namespace Decoder

def unexpected (expected : String) (t : Tree) : Except Fault α := do
  .error (.invalidType (← t.found) expected)

def map (f : α → β) (d : Decoder α) : Decoder β := fun depth t => (d depth t).map f

def string : Decoder String := fun _ t =>
  match t with
  | .string literal => literal.text
  | t => unexpected "a string" t

def bool : Decoder Bool := fun _ t =>
  match t with
  | .bool b => .ok b
  | t => unexpected "a boolean" t

def unit : Decoder Unit := fun _ t =>
  match t with
  | .null => .ok ()
  | t => unexpected "unit" t

def nothing (expected : String) : Decoder Unit := fun depth t =>
  match t with
  | .null => .ok ()
  | .array _ _ | .object _ _ => do
    let _ ← enter depth
    unexpected expected t
  | t => unexpected expected t

def integer (expected : String) (read : Int → Option α) : Decoder α := fun _ t =>
  match t with
  | .number value _ => do
    match ← value with
    | .whole n =>
      match read n.val with
      | some a => .ok a
      | none => .error (.invalidValue (.number (.whole n)) expected)
    | .float x h => .error (.invalidType (.number (.float x h)) expected)
  | t => unexpected expected t

def int64 : Decoder Int64 :=
  integer "i64" fun n => if -9223372036854775808 ≤ n ∧ n < 9223372036854775808 then some (.ofInt n) else none

def size : Decoder Nat :=
  integer "usize" fun n => if 0 ≤ n ∧ n < 18446744073709551616 then some n.toNat else none

def byte : Decoder UInt8 :=
  integer "u8" fun n => if 0 ≤ n ∧ n < 256 then some (.ofNat n.toNat) else none

def binary64 : Decoder Binary64 := fun _ t =>
  match t with
  | .number value _ => do
    match ← value with
    | .whole n => .ok (.ofInt n.val)
    | .float x _ => .ok x
  | t => unexpected "f64" t

def optional (d : Decoder α) : Decoder (Option α) := fun depth t =>
  match t with
  | .null => .ok none
  | t => (d depth t).map some

def listItems (d : Decoder α) (depth : Nat) : List Tree → Except Fault (List α)
  | [] => .ok []
  | t :: rest => do
    let a ← d depth t
    let more ← listItems d depth rest
    .ok (a :: more)

def list (d : Decoder α) : Decoder (List α) := fun depth t =>
  match t with
  | .array items stop => do
    let depth ← enter depth
    let values ← listItems d depth items
    orFault values stop.fault?
  | t => unexpected "a sequence" t

mutual
def json : Decoder Json
  | _, .null => .ok .null
  | _, .bool b => .ok (.bool b)
  | _, .number value _ => value.map .number
  | _, .string literal => literal.text.map .string
  | depth, .array items stop => do
    let depth ← enter depth
    let values ← jsonItems depth items
    orFault (.array values) stop.fault?
  | depth, .object members stop => do
    let depth ← enter depth
    let values ← jsonMembers depth members
    orFault (Json.ofMembers values) stop.fault?
  | _, .absent => .error .eofValue
  | _, .foreign => .error .expectedValue
  | _, .word fault => .error fault
  | _, .uncolon fault => .error fault
def jsonItems (depth : Nat) : List Tree → Except Fault (List Json)
  | [] => .ok []
  | t :: rest => do
    let j ← json depth t
    let more ← jsonItems depth rest
    .ok (j :: more)
def jsonMembers (depth : Nat) : List (Literal × Tree) → Except Fault (List (String × Json))
  | [] => .ok []
  | (key, t) :: rest => do
    let k ← key.text
    let j ← json depth t
    let more ← jsonMembers depth rest
    .ok ((k, j) :: more)
end

def named (values : List (String × α)) (name : String) : Except Fault α :=
  match values.lookup name with
  | some a => .ok a
  | none => .error (.unknownVariant name (values.map (·.1)))

def oneOf (values : List (String × α)) : Decoder α := fun depth t =>
  match t with
  | .string literal => do named values (← literal.text)
  | .object members stop => do
    let depth ← enter depth
    match members with
    | [] =>
      match stop with
      | .eof => .error .eofValue
      | .badKey found => do .error (.invalidType (← found) "variant identifier")
      | _ => .error .expectedValue
    | (key, content) :: more =>
      let a ← named values (← key.text)
      unit depth content
      match more, stop with
      | [], .closed => .ok a
      | [], .eof => .error .eofObject
      | _, _ => .error .expectedValue
  | .absent => .error .eofValue
  | .uncolon fault => .error fault
  | _ => .error .expectedValue

structure Field (α : Type) where
  name : String
  decode : Decoder α
  absent : Option α

/- The fields of a record in order. `σ` holds the values met so far; a name that no field has is
skipped. -/
structure Fields (σ α : Type) where
  -- The names, each with whether its field may be left out.
  names : List (String × Bool)
  empty : σ
  fill : String → Nat → Tree → σ → Except Fault σ
  collect : σ → Except Fault α

def Fields.done : Fields Unit Unit where
  names := []
  empty := ()
  fill _ _ t _ := orFault () t.skim
  collect _ := .ok ()

def Fields.field (f : Field β) (rest : Fields σ α) : Fields (Option β × σ) (β × α) where
  names := (f.name, f.absent.isSome) :: rest.names
  empty := (none, rest.empty)
  fill name depth t s :=
    if name = f.name then
      match s.1 with
      | some _ => .error (.duplicateField name)
      | none => do
        let value ← f.decode depth t
        .ok (some value, s.2)
    else do
      let more ← rest.fill name depth t s.2
      .ok (s.1, more)
  collect s :=
    match s.1.or f.absent with
    | none => .error (.missingField f.name)
    | some value => do
      let more ← rest.collect s.2
      .ok (value, more)

def required (name : String) (d : Decoder α) : Field α := ⟨name, d, none⟩

def defaulted (name : String) (d : Decoder α) (value : α) : Field α := ⟨name, d, some value⟩

def Fields.ofMembers (fs : Fields σ α) (depth : Nat) :
    σ → List (Literal × Tree) → Except Fault σ
  | s, [] => .ok s
  | s, (key, t) :: rest => do
    let s ← fs.fill (← key.text) depth t s
    fs.ofMembers depth s rest

def Fields.ofItems (fs : Fields σ α) (expected : String) (depth : Nat) (stop : ArrayEnd) :
    List (String × Bool) → Nat → σ → List Tree → Except Fault (σ × List Tree)
  | [], _, s, items => .ok (s, items)
  | (name, _) :: names, index, s, t :: items => do
    let s ← fs.fill name depth t s
    fs.ofItems expected depth stop names (index + 1) s items
  | (_, optional) :: names, index, s, [] =>
    match stop.fault? with
    | some fault => .error fault
    | none =>
      if optional then fs.ofItems expected depth stop names (index + 1) s []
      else .error (.invalidLength index expected)

def elements (n : Nat) : String := if n = 1 then "1 element" else toString n ++ " elements"

def record (title : String) (fs : Fields σ α) (make : α → β) : Decoder β := fun depth t =>
  match t with
  | .object members stop => do
    let depth ← enter depth
    let s ← fs.ofMembers depth fs.empty members
    let s ← orFault s stop.fault?
    (fs.collect s).map make
  | .array items stop => do
    let depth ← enter depth
    let expected := "struct " ++ title ++ " with " ++ elements fs.names.length
    let (s, left) ← fs.ofItems expected depth stop fs.names 0 fs.empty items
    let value ← fs.collect s
    orFault (make value) (stop.faultAfter !left.isEmpty)
  | t => unexpected ("struct " ++ title) t

structure Tagged (τ α : Type) where
  title : String
  tagName : String
  contentName : String
  tags : List (String × τ)
  content : τ → Decoder α
  -- The value of a tag that needs no content.
  alone : τ → Option α

/- What is known of a tagged value after some members; a content that stands first waits. -/
inductive Tagged.Progress (τ α : Type) where
  | start
  | tag (t : τ)
  | content (t : Tree)
  | complete (value : α)

def Tagged.member (d : Tagged τ α) (depth : Nat) (name : String) (t : Tree) :
    Tagged.Progress τ α → Except Fault (Tagged.Progress τ α)
  | progress =>
    if name = d.tagName then
      match progress with
      | .start => do .ok (.tag (← oneOf d.tags depth t))
      | .content held => do
        let tag ← oneOf d.tags depth t
        .ok (.complete (← d.content tag depth held))
      | _ => .error (.duplicateField name)
    else if name = d.contentName then
      match progress with
      | .start => do
        let _ ← json depth t
        .ok (.content t)
      | .tag tag => do .ok (.complete (← d.content tag depth t))
      | _ => .error (.duplicateField name)
    else orFault progress t.skim

def Tagged.members (d : Tagged τ α) (depth : Nat) :
    Tagged.Progress τ α → List (Literal × Tree) → Except Fault (Tagged.Progress τ α)
  | progress, [] => .ok progress
  | progress, (key, t) :: rest => do
    let progress ← d.member depth (← key.text) t progress
    d.members depth progress rest

def Tagged.finish (d : Tagged τ α) : Tagged.Progress τ α → Except Fault α
  | .start | .content _ => .error (.missingField d.tagName)
  | .tag tag =>
    match d.alone tag with
    | some value => .ok value
    | none => .error (.missingField d.contentName)
  | .complete value => .ok value

def tagged (d : Tagged τ α) : Decoder α := fun depth t =>
  match t with
  | .object members stop => do
    let depth ← enter depth
    let progress ← d.members depth .start members
    let progress ← orFault progress stop.fault?
    d.finish progress
  | .array items stop => do
    let depth ← enter depth
    match items with
    | [] => do
      orFault () stop.fault?
      .error (.invalidLength 0 d.title)
    | [t] => do
      let _ ← oneOf d.tags depth t
      orFault () stop.fault?
      .error (.invalidLength 1 d.title)
    | t :: content :: left => do
      let tag ← oneOf d.tags depth t
      let value ← d.content tag depth content
      orFault value (stop.faultAfter !left.isEmpty)
  | t => unexpected d.title t

end Decoder

def decodeSymbols (d : Decoder α) (s : List Text.Symbol) : Except Fault α :=
  let (t, rest) := Tree.read s
  match d maxDepth t with
  | .error fault => .error fault
  | .ok value =>
    match rest with
    | none => .ok value
    | some rest => if (Reader.skipBlank rest).isEmpty then .ok value else .error .trailingCharacters

def decodeBytes (d : Decoder α) (bytes : List UInt8) : Except Fault α :=
  decodeSymbols d (Text.symbols bytes)

def decodeJson (d : Decoder α) (j : Json) : Except Fault α := d (j.height + 1) (Tree.ofJson j)

end FeatureStore.Json
