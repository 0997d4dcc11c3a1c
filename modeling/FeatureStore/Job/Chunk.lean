import FeatureStore.Error
import FeatureStore.Value

/-!
Chunks of rows. All arithmetic is that of words of 64 bits which stop at their bounds.
-/
namespace FeatureStore

def saturate (n : Int) : Int64 :=
  if n < -9223372036854775808 then Int64.minValue
  else if 9223372036854775808 ≤ n then Int64.maxValue
  else .ofInt n

structure Chunk where
  size : Int64
  index : Int64
  deriving DecidableEq, Repr

namespace Chunk

def count (numRows size : Int64) : Int64 :=
  if numRows ≤ 0 || size ≤ 0 then 0
  else numRows / size + if numRows % size = 0 then 0 else 1

def range? (c : Chunk) (numRows : Int64) : Option (Int64 × Int64) :=
  let first := saturate (c.index.toInt * c.size.toInt)
  if numRows ≤ first then none
  else some (first, min (saturate (first.toInt + c.size.toInt)) numRows)

def checkSize (size : Int64) : Except Error Unit :=
  if size ≤ 0 then
    .error (.invalidInput ("chunk size must be positive, got " ++ FeatureValue.intText size.toInt))
  else .ok ()

def check (c : Chunk) : Except Error Unit := do
  checkSize c.size
  if c.index < 0 then
    .error (.invalidInput
      ("chunk index must not be negative, got " ++ FeatureValue.intText c.index.toInt))
  else .ok ()

end Chunk
end FeatureStore
