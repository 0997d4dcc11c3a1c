/-!
Bytes as text. `symbols` reads any byte string as characters and runs of stray bytes, so that a
reader can go on past bytes that belong to no character; `lossy` shows each stray run as one
replacement character.
-/
namespace FeatureStore.Text

inductive Symbol where
  | char (c : Char)
  | stray (bytes : Nat)
  deriving DecidableEq, Repr

namespace Symbol

def size : Symbol → Nat
  | .char c => c.utf8Size
  | .stray n => n

def isTail (b : UInt8) : Bool := b &&& 0xC0 == 0x80

def mayFollow (first second : UInt8) : Bool :=
  if first == 0xE0 then 0xA0 ≤ second && second ≤ 0xBF
  else if first == 0xED then 0x80 ≤ second && second ≤ 0x9F
  else if first == 0xF0 then 0x90 ≤ second && second ≤ 0xBF
  else if first == 0xF4 then 0x80 ≤ second && second ≤ 0x8F
  else isTail second

def sequenceLength (first : UInt8) : Nat :=
  if first < 0x80 then 1
  else if 0xC2 ≤ first && first ≤ 0xDF then 2
  else if 0xE0 ≤ first && first ≤ 0xEF then 3
  else if 0xF0 ≤ first && first ≤ 0xF4 then 4
  else 0

def tails (first : UInt8) (rest : List UInt8) : List UInt8 :=
  match rest.take (sequenceLength first - 1) with
  | [] => []
  | second :: more => if mayFollow first second then second :: more.takeWhile isTail else []

def payload (first : UInt8) : Nat :=
  if first < 0x80 then first.toNat
  else if first < 0xE0 then first.toNat % 32
  else if first < 0xF0 then first.toNat % 16
  else first.toNat % 8

def first (b : UInt8) (rest : List UInt8) : Symbol :=
  let more := tails b rest
  if more.length + 1 = sequenceLength b then
    .char (Char.ofNat (more.foldl (fun n t => n * 64 + t.toNat % 64) (payload b)))
  else .stray (more.length + 1)

def scan : Nat → List UInt8 → List Symbol
  | _, [] => []
  | skip + 1, _ :: rest => scan skip rest
  | 0, b :: rest =>
    let s := first b rest
    s :: scan (s.size - 1) rest

end Symbol

def symbols (bytes : List UInt8) : List Symbol :=
  match String.fromUTF8? bytes.toByteArray with
  | some s => s.toList.map .char
  | none => Symbol.scan 0 bytes

def utf8 (s : String) : List UInt8 := s.toUTF8.data.toList

theorem symbolsUtf8 (s : String) : symbols (utf8 s) = s.toList.map .char := by
  have bytes : (utf8 s).toByteArray = s.toUTF8 := by
    apply ByteArray.ext
    simp [utf8]
  have valid : String.fromUTF8? s.toUTF8 = some s := by
    unfold String.fromUTF8?
    rw [String.toUTF8_eq_toByteArray, dif_pos s.isValidUTF8]
    rfl
  unfold symbols
  rw [bytes, valid]

def lossy (bytes : List UInt8) : String :=
  String.ofList ((symbols bytes).map fun
    | .char c => c
    | .stray _ => '\uFFFD')

end FeatureStore.Text
