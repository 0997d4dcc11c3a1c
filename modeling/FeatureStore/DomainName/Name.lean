import FeatureStore.DomainName.Label
import FeatureStore.DomainName.Punycode
import FeatureStore.Text.Direction
import FeatureStore.Text.Utf8

/-!
Domain names in ASCII. A name is brought into its own form, and each label that holds other characters
is written in ASCII behind a mark; a label that comes with the mark has to be the ASCII of a label.
-/
namespace FeatureStore.DomainName
open Text (Direction composed)

def asciiMark : List Char := ['x', 'n', '-', '-']

def isAscii (c : Char) : Bool := c.toNat < 0x80

def isForbidden (c : Char) : Bool :=
  c.toNat ≤ 0x20 || c.toNat == 0x7F || "%#/:<>?@[\\]^|".toList.contains c

def joinLabels (labels : List (List Char)) : List Char := List.intercalate ['.'] labels

def unicodeLabel? (label : List Char) : Option (List Char) :=
  if asciiMark.isPrefixOf label then do
    let s ← Punycode.decode? (label.drop asciiMark.length)
    if s.all isAscii || asciiMark.isPrefixOf s || !isLabel s then none else some s
  else if isLabel label then some label
  else none

def asciiLabel (label : List Char) : List Char :=
  if label.all isAscii then label else asciiMark ++ Punycode.encode label

def areSettled (labels : List (List Char)) : Bool :=
  !labels.any (·.any fun c => (Direction.of c).isRightward) ||
    labels.all fun label => Direction.areSettled (label.map .of)

def toAscii? (s : List Char) : Option (List Char) := do
  let own := composed (← s.mapM mapped?).flatten
  let labels ← (own.splitOn '.').mapM unicodeLabel?
  if areSettled labels && !labels.any (·.any isForbidden) then
    some (joinLabels (labels.map asciiLabel))
  else none

end FeatureStore.DomainName
