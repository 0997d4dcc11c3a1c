import FeatureStore.Text.Digit
import FeatureStore.Text.Utf8

/-!
Bytes written as a percent sign and two hexadecimal digits. A percent sign without two digits behind it
stands for itself.
-/
namespace FeatureStore.Percent

def hexPair (b : UInt8) : List Char :=
  let digits := "0123456789ABCDEF".toList
  [digits.getD (b.toNat / 16) '0', digits.getD (b.toNat % 16) '0']

def encode (escaped : Char → Bool) (s : List Char) : List Char :=
  s.flatMap fun c =>
    if escaped c then (Text.utf8 (String.singleton c)).flatMap fun b => '%' :: hexPair b else [c]

def byte? : List Char → Option UInt8
  | '%' :: a :: b :: _ => do
    let high ← Text.digit? 16 a
    let low ← Text.digit? 16 b
    some (.ofNat (high * 16 + low))
  | _ => none

def decodeFrom : Nat → List Char → List UInt8
  | _, [] => []
  | skip + 1, _ :: rest => decodeFrom skip rest
  | 0, c :: rest =>
    match byte? (c :: rest) with
    | some b => b :: decodeFrom 2 rest
    | none => Text.utf8 (String.singleton c) ++ decodeFrom 0 rest

def decode (s : List Char) : List UInt8 := decodeFrom 0 s

def decodeText? (s : List Char) : Option String := String.fromUTF8? (decode s).toByteArray

def isControlOrWide (c : Char) : Bool := c.toNat < 0x20 || 0x7E < c.toNat

def isUserEscaped (c : Char) : Bool :=
  isControlOrWide c || " \"#<>?`\x7b\x7d/:;=@[\\]^|".toList.contains c

def isPathEscaped (c : Char) : Bool :=
  isControlOrWide c || " \"#<>?`\x7b\x7d".toList.contains c

end FeatureStore.Percent
