import FeatureStore.Task

/-!
Tasks over a state as functions: `Task.on` is the answer of a task in a state with the state that it
leaves. The lemmas run a task one operation at a time, so that no proof opens the transformers.
-/
namespace FeatureStore.Task
variable {σ α β : Type}

def on (t : Task (StateM σ) α) (s : σ) : Except Failure α × σ := t.run s

@[simp] theorem onPure (a : α) (s : σ) : on (pure a : Task (StateM σ) α) s = (.ok a, s) := rfl

@[simp] theorem onFail (e : Error) (s : σ) :
    on (fail e : Task (StateM σ) α) s = (.error (.error e), s) := rfl

@[simp] theorem onGet (s : σ) : on (get : Task (StateM σ) σ) s = (.ok s, s) := rfl

@[simp] theorem onGetThe (s : σ) : on (getThe σ : Task (StateM σ) σ) s = (.ok s, s) := rfl

@[simp] theorem onSet (s next : σ) :
    on (set next : Task (StateM σ) PUnit) s = (.ok ⟨⟩, next) := rfl

@[simp] theorem onModify (f : σ → σ) (s : σ) :
    on (modify f : Task (StateM σ) PUnit) s = (.ok ⟨⟩, f s) := rfl

theorem mapErrorOk {ε δ : Type} (f : ε → δ) (a : α) : (.ok a : Except ε α).mapError f = .ok a := rfl

theorem mapErrorError {ε δ : Type} (f : ε → δ) (e : ε) :
    (.error e : Except ε α).mapError f = .error (f e) := rfl

@[simp] theorem onExcept (x : Except Error α) (s : σ) :
    on (ofExcept x : Task (StateM σ) α) s = (x.mapError .error, s) := by
  cases x <;> rfl

theorem onBind (t : Task (StateM σ) α) (f : α → Task (StateM σ) β) (s : σ) :
    on (t >>= f) s =
      match on t s with
      | (.ok a, next) => on (f a) next
      | (.error e, next) => (.error e, next) := by
  have opened : on (t >>= f) s = ExceptT.bindCont f (on t s).1 (on t s).2 := rfl
  rw [opened]
  obtain ⟨result, next⟩ := on t s
  cases result <;> rfl

theorem onBindOk {t : Task (StateM σ) α} {f : α → Task (StateM σ) β} {s after : σ} {b : β}
    (ok : on (t >>= f) s = (.ok b, after)) :
    ∃ a mid, on t s = (.ok a, mid) ∧ on (f a) mid = (.ok b, after) := by
  rw [onBind] at ok
  rcases ended : on t s with ⟨e | a, mid⟩ <;> rw [ended] at ok
  · cases ok
  · exact ⟨a, mid, rfl, ok⟩

theorem exceptThen {x : Except Error α} {f : α → Task (StateM σ) β} {s after : σ} {b : β}
    (ok : on (ofExcept x >>= f) s = (.ok b, after)) : ∃ a, x = .ok a ∧ on (f a) s = (.ok b, after) := by
  cases x with
  | error e => cases ok
  | ok a => exact ⟨a, rfl, ok⟩

theorem onMap (f : α → β) (t : Task (StateM σ) α) (s : σ) :
    on (f <$> t) s = ((on t s).1.map f, (on t s).2) := by
  rw [← bind_pure_comp, onBind]
  obtain ⟨result, next⟩ := on t s
  cases result <;> rfl

theorem boundOk {ε : Type} {x : Except ε α} {f : α → Except ε β} {b : β}
    (ok : (x >>= f) = .ok b) : ∃ a, x = .ok a ∧ f a = .ok b := by
  cases x with
  | error e => cases ok
  | ok a => exact ⟨a, rfl, ok⟩

theorem onCaught (t : Task (StateM σ) α) (s : σ) :
    on (ExceptT.lift t.run : Task (StateM σ) (Except Failure α)) s = (.ok (on t s).1, (on t s).2) :=
  rfl

theorem onLifted (x : StateM σ α) (s : σ) :
    on (ExceptT.lift x : Task (StateM σ) α) s = (.ok (x.run s).1, (x.run s).2) := rfl

theorem runThen (x : StateM σ α) (f : α → StateM σ β) (s : σ) :
    (x >>= f).run s = (f (x.run s).1).run (x.run s).2 := rfl

theorem onAnswer (f : Except Failure α → β) (t : Task (StateM σ) α) (s : σ) :
    (do return f (← t.run) : StateM σ β).run s = (f (on t s).1, (on t s).2) := rfl

theorem answered {ε : Type} {r : Except ε α × σ} (ok : r.1.isOk = true) : ∃ a, r = (.ok a, r.2) := by
  obtain ⟨_ | a, next⟩ := r
  · cases ok
  · exact ⟨a, rfl⟩

end FeatureStore.Task
