import FeatureStore.Online.Store
import FeatureStore.Proofs.Value

/-!
Clients of an online store. A client calls one operation after another and reaches a table through the
handle that one of its calls gave; which calls it makes does not depend on the store.
-/
namespace FeatureStore

inductive OnlineCall where
  | createTable (feature variant : String) (type : ValueType)
  | getTable (feature variant : String)
  | deleteTable (feature variant : String)
  | set (handle : Nat) (entity : String) (value : FeatureValue)
  | get (handle : Nat) (entity : String)
  | setBatch (handle : Nat) (records : List (String × FeatureValue))

inductive OnlineAnswer where
  | done
  | value (v : FeatureValue)
  | failed (f : Failure)
  | noHandle

namespace OnlineCall

def table? : OnlineCall → Option String
  | createTable feature variant _ | getTable feature variant | deleteTable feature variant =>
    some (onlineTableKey "" feature variant)
  | _ => none

def opens? : OnlineCall → Option String
  | createTable feature variant _ | getTable feature variant =>
    some (onlineTableKey "" feature variant)
  | _ => none

def deletes? : OnlineCall → Option String
  | deleteTable feature variant => some (onlineTableKey "" feature variant)
  | _ => none

def handle? : OnlineCall → Option Nat
  | set handle _ _ | get handle _ | setBatch handle _ => some handle
  | _ => none

def records : OnlineCall → List (String × FeatureValue)
  | set _ entity value => [(entity, value)]
  | setBatch _ records => records
  | _ => []

def values : OnlineCall → List FeatureValue
  | set _ _ value => [value]
  | setBatch _ records => records.map (·.2)
  | _ => []

def Stale (calls : List OnlineCall) (given deleted used : Nat) : Prop :=
  calls[used]?.bind handle? = some given ∧ calls[given]?.bind opens? ≠ none ∧
    calls[deleted]?.bind deletes? = calls[given]?.bind opens?

instance (calls : List OnlineCall) (given deleted used : Nat) :
    Decidable (Stale calls given deleted used) :=
  inferInstanceAs (Decidable (_ ∧ _ ∧ _))

/-- No call names the list of tables, every value can be kept, and a handle is used only while its
table has not been deleted since the handle was given. -/
structure Proper (calls : List OnlineCall) : Prop where
  unreserved : ∀ call ∈ calls, call.table? ≠ some "__tables__"
  storable : ∀ call ∈ calls, ∀ v ∈ call.values, v.Storable = true
  live : ∀ used < calls.length, ∀ deleted < used, ∀ given < deleted, ¬ Stale calls given deleted used

instance (calls : List OnlineCall) : Decidable (Proper calls) :=
  decidable_of_iff
    ((∀ call ∈ calls, call.table? ≠ some "__tables__") ∧
      (∀ call ∈ calls, ∀ v ∈ call.values, v.Storable = true) ∧
      ∀ used < calls.length, ∀ deleted < used, ∀ given < deleted, ¬ Stale calls given deleted used)
    ⟨fun ⟨unreserved, storable, live⟩ => ⟨unreserved, storable, live⟩,
      fun ⟨unreserved, storable, live⟩ => ⟨unreserved, storable, live⟩⟩

variable {m : Type → Type} [Monad m]

def opened : Except Failure (OnlineTable m) → OnlineAnswer × Option (OnlineTable m)
  | .ok table => (.done, some table)
  | .error failure => (.failed failure, none)

def closed : Except Failure Unit → OnlineAnswer × Option (OnlineTable m)
  | .ok _ => (.done, none)
  | .error failure => (.failed failure, none)

def valued : Except Failure FeatureValue → OnlineAnswer × Option (OnlineTable m)
  | .ok v => (.value v, none)
  | .error failure => (.failed failure, none)

def shown : Except Failure FeatureValue → OnlineAnswer
  | .ok v => .value v
  | .error failure => .failed failure

omit [Monad m] in
theorem valuedShown (x : Except Failure FeatureValue) : valued (m := m) x = (shown x, none) := by
  cases x <;> rfl

omit [Monad m] in
theorem closedNone (x : Except Failure Unit) : (closed (m := m) x).2 = none := by
  cases x <;> rfl

def through (held : List (Option (OnlineTable m))) (handle : Nat)
    (use : OnlineTable m → m (OnlineAnswer × Option (OnlineTable m))) :
    m (OnlineAnswer × Option (OnlineTable m)) :=
  match held[handle]?.join with
  | some table => use table
  | none => pure (.noHandle, none)

def perform (store : OnlineStore m) (held : List (Option (OnlineTable m))) :
    OnlineCall → m (OnlineAnswer × Option (OnlineTable m))
  | createTable feature variant type => do return opened (← (store.createTable feature variant type).run)
  | getTable feature variant => do return opened (← (store.getTable feature variant).run)
  | deleteTable feature variant => do return closed (← (store.deleteTable feature variant).run)
  | set handle entity value =>
    through held handle fun table => do return closed (← (table.set entity value).run)
  | get handle entity => through held handle fun table => do return valued (← (table.get entity).run)
  | setBatch handle records =>
    through held handle fun table => do return closed (← (table.setBatch records).run)

def answersFrom (store : OnlineStore m) :
    List (Option (OnlineTable m)) → List OnlineCall → m (List OnlineAnswer)
  | _, [] => return []
  | held, call :: rest => do
    let (answer, handle) ← perform store held call
    let more ← answersFrom store (held ++ [handle]) rest
    return answer :: more

def answers (store : OnlineStore m) (calls : List OnlineCall) : m (List OnlineAnswer) :=
  answersFrom store [] calls

end OnlineCall
end FeatureStore
