/-!
Finite maps as lists of bindings. A key is bound at most once when the bindings come from `empty`,
`insert` and `erase`; a new key goes to the end, and a key that is bound again keeps its place.
-/
namespace FeatureStore

structure Bindings (κ ν : Type) where
  entries : List (κ × ν)
  deriving Repr, Inhabited

namespace Bindings
variable {κ ν μ : Type} [DecidableEq κ]

def empty : Bindings κ ν := ⟨[]⟩

def find? (b : Bindings κ ν) (key : κ) : Option ν :=
  (b.entries.find? fun e => e.1 = key).map (·.2)

def contains (b : Bindings κ ν) (key : κ) : Bool := (b.find? key).isSome

def insertInto (key : κ) (value : ν) : List (κ × ν) → List (κ × ν)
  | [] => [(key, value)]
  | e :: rest => if e.1 = key then (key, value) :: rest else e :: insertInto key value rest

def insert (b : Bindings κ ν) (key : κ) (value : ν) : Bindings κ ν :=
  ⟨insertInto key value b.entries⟩

def erase (b : Bindings κ ν) (key : κ) : Bindings κ ν := ⟨b.entries.filter fun e => e.1 ≠ key⟩

def keys (b : Bindings κ ν) : List κ := b.entries.map (·.1)

def values (b : Bindings κ ν) : List ν := b.entries.map (·.2)

@[simp] theorem findEmpty (key : κ) : (empty : Bindings κ ν).find? key = none := rfl

theorem findInsertInto (key : κ) (value : ν) (entries : List (κ × ν)) (k : κ) :
    ((insertInto key value entries).find? fun e => e.1 = k).map (·.2) =
      if key = k then some value else (entries.find? fun e => e.1 = k).map (·.2) := by
  induction entries with
  | nil => by_cases h : key = k <;> simp [insertInto, h]
  | cons e rest ih =>
    by_cases same : e.1 = key
    · by_cases h : key = k
      · simp [insertInto, same, h]
      · simp [insertInto, same, h]
    · by_cases here : e.1 = k
      · have other : ¬ key = k := fun c => same (here.trans c.symm)
        have swapped : ¬ k = key := fun c => other c.symm
        simp [insertInto, here, other, swapped]
      · simpa [insertInto, same, here] using ih

theorem findInsert (b : Bindings κ ν) (key : κ) (value : ν) (k : κ) :
    (b.insert key value).find? k = if key = k then some value else b.find? k :=
  findInsertInto key value b.entries k

theorem findErase (b : Bindings κ ν) (key k : κ) :
    (b.erase key).find? k = if key = k then none else b.find? k := by
  unfold erase find?
  induction b.entries with
  | nil => simp
  | cons e rest ih =>
    by_cases h : key = k <;> by_cases same : e.1 = key <;> by_cases here : e.1 = k <;>
      simp_all

end Bindings
end FeatureStore
