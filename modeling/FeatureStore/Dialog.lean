/-!
Programs that talk to a server: each asks requests one after another and goes on from the reply. What
a program sends is then a function of the replies that it gets.
-/
namespace FeatureStore

inductive Dialog (request reply : Type) (α : Type) where
  | done (value : α)
  | ask (r : request) (next : reply → Dialog request reply α)

namespace Dialog
variable {request reply α β : Type}

def bind : Dialog request reply α → (α → Dialog request reply β) → Dialog request reply β
  | .done value, f => f value
  | .ask r next, f => .ask r fun reply => (next reply).bind f

instance : Monad (Dialog request reply) where
  pure := .done
  bind := bind

def send (r : request) : Dialog request reply reply := .ask r .done

def run {m : Type → Type} [Monad m] (answer : request → m reply) : Dialog request reply α → m α
  | .done value => pure value
  | .ask r next => do (next (← answer r)).run answer

/-- What a program sends to a list of replies: its answer and the replies that are left, or none when
the replies do not suffice, and what it has sent. -/
def replay : Dialog request reply α → List reply → Option (α × List reply) × List request
  | .done value, replies => (some (value, replies), [])
  | .ask r _, [] => (none, [r])
  | .ask r next, reply :: rest =>
    let (result, sent) := (next reply).replay rest
    (result, r :: sent)

theorem bindDone (d : Dialog request reply α) : d.bind .done = d := by
  induction d with
  | done value => rfl
  | ask r next ih => simp [bind, ih]

theorem bindAssoc {γ : Type} (d : Dialog request reply α) (f : α → Dialog request reply β)
    (g : β → Dialog request reply γ) : (d.bind f).bind g = d.bind fun a => (f a).bind g := by
  induction d with
  | done value => rfl
  | ask r next ih => simp [bind, ih]

instance : LawfulMonad (Dialog request reply) :=
  LawfulMonad.mk' _ bindDone (fun _ _ => rfl) bindAssoc

end Dialog
end FeatureStore
