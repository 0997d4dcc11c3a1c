import FeatureStore.Host
import FeatureStore.Proofs.Task

/-!
The stores of a host seen one at a time. An operation of a store in one place runs as it would alone;
the other places stay as they were.
-/
namespace FeatureStore.Host
variable {α : Type}

def memoryAt (h : Host) (place : Nat) : Memory := h.memories.getD place default

def localAt (h : Host) (place : Nat) : LocalStore := h.locals.getD place default

def putMemory (h : Host) (place : Nat) (m : Memory) : Host :=
  { h with memories := h.memories.set place m }

def putLocal (h : Host) (place : Nat) (s : LocalStore) : Host :=
  { h with locals := h.locals.set place s }

theorem setSame {β : Type} (items : List β) (place : Nat) (d : β) :
    items.set place (items.getD place d) = items := by
  by_cases inside : place < items.length
  · simp [inside]
  · exact List.set_eq_of_length_le (Nat.le_of_not_lt inside)

@[simp] theorem putMemorySame (h : Host) (place : Nat) : h.putMemory place (h.memoryAt place) = h := by
  simp only [putMemory, memoryAt, setSame]

@[simp] theorem putLocalSame (h : Host) (place : Nat) : h.putLocal place (h.localAt place) = h := by
  simp only [putLocal, localAt, setSame]

@[simp] theorem memoryAtPutLocal (h : Host) (p q : Nat) (s : LocalStore) :
    (h.putLocal q s).memoryAt p = h.memoryAt p := rfl

theorem memoryAtPut {h : Host} {place : Nat} (inside : place < h.memories.length) (m : Memory) :
    (h.putMemory place m).memoryAt place = m := by
  simp [putMemory, memoryAt, inside]

theorem localAtPut {h : Host} {place : Nat} (inside : place < h.locals.length) (s : LocalStore) :
    (h.putLocal place s).localAt place = s := by
  simp [putLocal, localAt, inside]

@[simp] theorem putLocalTwice (h : Host) (place : Nat) (s t : LocalStore) :
    (h.putLocal place s).putLocal place t = h.putLocal place t := by
  simp [putLocal]

theorem onMemoryAt (place : Nat) (t : Task (StateM Memory) α) (h : Host) :
    (Task.lift (onMemory place) t).on h =
      ((t.on (h.memoryAt place)).1, h.putMemory place (t.on (h.memoryAt place)).2) := rfl

theorem onLocalAt (place : Nat) (t : Task (StateM LocalStore) α) (h : Host) :
    (Task.lift (onLocal place) t).on h =
      ((t.on (h.localAt place)).1, h.putLocal place (t.on (h.localAt place)).2) := rfl

structure Holds (h : Host) (offline online : Nat) : Prop where
  offline : offline < h.memories.length
  online : online < h.locals.length

theorem Holds.putMemory {h : Host} {p q : Nat} (holds : h.Holds p q) (place : Nat) (m : Memory) :
    (h.putMemory place m).Holds p q :=
  ⟨by simpa [Host.putMemory] using holds.offline, holds.online⟩

theorem Holds.putLocal {h : Host} {p q : Nat} (holds : h.Holds p q) (place : Nat) (s : LocalStore) :
    (h.putLocal place s).Holds p q :=
  ⟨holds.offline, by simpa [Host.putLocal] using holds.online⟩

end FeatureStore.Host
