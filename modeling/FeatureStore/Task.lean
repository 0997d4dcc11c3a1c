import FeatureStore.Error

/-!
Operations of a backend that may fail. `m` is the world in which they run.
-/
namespace FeatureStore

inductive Failure where
  | error (e : Error)
  -- The operation broke off at something that it takes for granted.
  | panic
  deriving Repr

abbrev Task (m : Type → Type) (α : Type) := ExceptT Failure m α

namespace Task
variable {m n : Type → Type}

def fail [Monad m] (e : Error) : Task m α := throw (.error e)

def ofExcept [Monad m] : Except Error α → Task m α
  | .ok a => pure a
  | .error e => fail e

def lift (f : ∀ {α}, m α → n α) (t : Task m α) : Task n α := ExceptT.mk (f t.run)

end Task
end FeatureStore
