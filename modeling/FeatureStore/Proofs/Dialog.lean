import FeatureStore.Dialog

/-!
Replaying a program in parts: a part takes its replies from the front and leaves the others to what
comes after it.
-/
namespace FeatureStore.Dialog
variable {request reply α β : Type}

theorem replayBind (d : Dialog request reply α) (f : α → Dialog request reply β)
    (replies : List reply) :
    (d.bind f).replay replies =
      match d.replay replies with
      | (some (a, rest), sent) => (((f a).replay rest).1, sent ++ ((f a).replay rest).2)
      | (none, sent) => (none, sent) := by
  induction d generalizing replies with
  | done value => rfl
  | ask r next ih =>
    cases replies with
    | nil => rfl
    | cons reply rest =>
      simp only [bind, replay, ih]
      rcases (next reply).replay rest with ⟨_ | ⟨a, left⟩, sent⟩ <;> rfl

theorem replayTakes {d : Dialog request reply α} {replies rest : List reply} {a : α}
    {sent : List request} (ended : d.replay replies = (some (a, rest), sent)) :
    ∃ taken, replies = taken ++ rest ∧ taken.length = sent.length := by
  induction d generalizing replies sent with
  | done value =>
    cases ended
    exact ⟨[], rfl, rfl⟩
  | ask r next ih =>
    cases replies with
    | nil => cases ended
    | cons reply more =>
      simp only [replay, Prod.mk.injEq] at ended
      obtain ⟨result, rfl⟩ := ended
      obtain ⟨taken, rfl, same⟩ := ih reply (Prod.ext result rfl)
      exact ⟨reply :: taken, rfl, by simp [same]⟩

end FeatureStore.Dialog
