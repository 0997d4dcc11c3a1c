import FeatureStore.Text.Digit

/-!
Tables of code points, written as hexadecimal words with blanks or line ends between them: one code
point, or the first and the last of a range with a dash between them.
-/
namespace FeatureStore.Text

def cutAt (test : Char → Bool) (s : List Char) : List (List Char) :=
  (s.splitOnP test).filter fun part => !part.isEmpty

def wordsOf (table : String) : List (List Char) :=
  cutAt (fun c => c == ' ' || c == '\n') table.toList

def hexOf (digits : List Char) : Nat := (number? 16 digits).getD 0

abbrev Ranges := List (Nat × Nat)

namespace Ranges

def ofWord (word : List Char) : Nat × Nat :=
  match cutAt (· == '-') word with
  | [first, last] => (hexOf first, hexOf last)
  | _ => (hexOf word, hexOf word)

def ofTable (table : String) : Ranges := (wordsOf table).map ofWord

def has (r : Ranges) (c : Char) : Bool := r.any fun p => p.1 ≤ c.toNat && c.toNat ≤ p.2

end Ranges

/- A table in parts: a word that ends with a colon names the part behind it. -/
def partsFrom (title : List Char) (held : List (List Char)) :
    List (List Char) → List (List Char × List (List Char))
  | [] => [(title, held.reverse)]
  | word :: rest =>
    if word.getLast? = some ':' then (title, held.reverse) :: partsFrom word.dropLast [] rest
    else partsFrom title (word :: held) rest

def partsOf (table : String) : List (List Char × List (List Char)) :=
  (partsFrom [] [] (wordsOf table)).drop 1

end FeatureStore.Text
