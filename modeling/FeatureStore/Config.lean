import FeatureStore.Error

/-!
Configurations as payloads of bytes. Whoever owns a kind of configuration knows how it is written and
read; everybody else passes the bytes on.
-/
namespace FeatureStore
open Json (Decoder)

structure SerializedConfig where
  bytes : List UInt8
  deriving DecidableEq, Repr, Inhabited

namespace SerializedConfig

def empty : SerializedConfig := ⟨[]⟩

def ofText (s : String) : SerializedConfig := ⟨Text.utf8 s⟩

def text (c : SerializedConfig) : String := Text.lossy c.bytes

def toJson (c : SerializedConfig) : Json :=
  .array (c.bytes.map fun b => .ofInt64 (.ofNat b.toNat))

def decoder : Decoder SerializedConfig := (Decoder.list Decoder.byte).map SerializedConfig.mk

end SerializedConfig

structure WordSize where
  val : Nat
  val_lt : val < 18446744073709551616
  deriving DecidableEq, Repr

namespace WordSize

def toJson (n : WordSize) : Json :=
  .number (.whole ⟨n.val, by omega, by have := n.val_lt; omega⟩)

def ofInt? (n : Int) : Option WordSize :=
  if h : 0 ≤ n ∧ n < 18446744073709551616 then some ⟨n.toNat, by omega⟩ else none

def decoder : Decoder WordSize := Decoder.integer "usize" ofInt?

end WordSize

class Config (α : Type) where
  kind : String
  toJson : α → Json
  decoder : Decoder α

namespace Config

def encode [Config α] (x : α) : SerializedConfig := .ofText (toJson x).text

def decode (α : Type) [Config α] (c : SerializedConfig) : Except Error α :=
  match Json.decodeBytes (decoder (α := α)) c.bytes with
  | .ok x => .ok x
  | .error fault => .error (.deserialization (kind α) fault)

end Config
end FeatureStore
