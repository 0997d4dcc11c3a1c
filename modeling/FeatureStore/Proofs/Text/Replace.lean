import FeatureStore.Text.Replace

/-!
Replacing and finding, by what stands at the head of a text: an occurrence of the pattern, or something
in which none begins.
-/
namespace FeatureStore.Text
variable {p x s : List Char}

def NoneIn (p s rest : List Char) : Prop :=
  ∀ front back, s = front ++ back → back ≠ [] → ¬ p <+: back ++ rest

theorem noneInCons {c : Char} {rest : List Char} :
    NoneIn p (c :: s) rest ↔ ¬ p <+: c :: (s ++ rest) ∧ NoneIn p s rest := by
  constructor
  · intro none
    refine ⟨none [] (c :: s) rfl (by simp), fun front back split => ?_⟩
    exact none (c :: front) back (by rw [split, List.cons_append])
  · rintro ⟨head, tail⟩ front back split nonempty
    rcases front with _ | ⟨d, front⟩
    · rw [List.nil_append] at split
      exact split ▸ head
    · exact tail front back (List.cons.inj split).2 nonempty

theorem noneInWithout {c : Char} {tail rest : List Char} (missing : c ∉ s) : NoneIn (c :: tail) s rest := by
  rintro front back rfl nonempty begins
  rcases back with _ | ⟨d, back⟩
  · exact nonempty rfl
  · rw [List.cons_append, List.cons_prefix_cons] at begins
    exact missing (by simp [begins.1])

theorem aroundFirst {c : Char} (absent : c ∉ s) (rest : List Char) :
    (s ++ c :: rest).takeWhile (· ≠ c) = s ∧ (s ++ c :: rest).dropWhile (· ≠ c) = c :: rest := by
  have passed : ∀ d ∈ s, decide (d ≠ c) = true := fun d mem => by
    have apart : d ≠ c := fun same => absent (same ▸ mem)
    simpa using apart
  rw [List.takeWhile_append_of_pos passed, List.dropWhile_append_of_pos passed]
  simp

theorem startsHere (c : Char) (tail rest : List Char) :
    (c :: tail).isPrefixOf (c :: (tail ++ rest)) = true := by
  simp [List.isPrefixOf_iff_prefix]

theorem replaceSkipped (p x s : List Char) (skip : Nat) :
    replaceFrom p x skip s = replace p x (s.drop skip) := by
  induction skip generalizing s with
  | zero => rfl
  | succ skip ih =>
    cases s with
    | nil => rfl
    | cons c rest => exact ih rest

theorem replaceHere (nonempty : p ≠ []) (x rest : List Char) :
    replace p x (p ++ rest) = x ++ replace p x rest := by
  cases p with
  | nil => exact absurd rfl nonempty
  | cons c tail =>
    rw [List.cons_append, replace, replaceFrom, if_pos (startsHere c tail rest), replaceSkipped]
    simp

theorem replaceStep {c : Char} {rest : List Char} (other : ¬ p <+: c :: rest) (x : List Char) :
    replace p x (c :: rest) = c :: replace p x rest := by
  rw [replace, replaceFrom, if_neg (by rwa [List.isPrefixOf_iff_prefix])]
  rfl

theorem replacePast {rest : List Char} (none : NoneIn p s rest) (x : List Char) :
    replace p x (s ++ rest) = s ++ replace p x rest := by
  induction s with
  | nil => rfl
  | cons c s ih =>
    obtain ⟨head, tail⟩ := noneInCons.mp none
    rw [List.cons_append, replaceStep head, ih tail, List.cons_append]

theorem replaceFirst (nonempty : p ≠ []) (x s : List Char) :
    replace p x s = s ∨ ∃ before after, s = before ++ (p ++ after) ∧
      replace p x s = before ++ (x ++ replace p x after) := by
  induction s with
  | nil => exact .inl rfl
  | cons c s ih =>
    by_cases here : p <+: c :: s
    · obtain ⟨after, whole⟩ := here
      refine .inr ⟨[], after, whole.symm, ?_⟩
      rw [← whole, replaceHere nonempty]
      rfl
    · rw [replaceStep here]
      rcases ih with same | ⟨before, after, rfl, replaced⟩
      · exact .inl (by rw [same])
      · exact .inr ⟨c :: before, after, rfl, by rw [replaced, List.cons_append]⟩

theorem fromFirstHere (nonempty : p ≠ []) (rest : List Char) :
    fromFirst? p (p ++ rest) = some (p ++ rest) := by
  cases p with
  | nil => exact absurd rfl nonempty
  | cons c tail =>
    rw [List.cons_append, fromFirst?, if_pos (startsHere c tail rest)]

theorem fromFirstPast {rest : List Char} (none : NoneIn p s rest) :
    fromFirst? p (s ++ rest) = fromFirst? p rest := by
  induction s with
  | nil => rfl
  | cons c s ih =>
    obtain ⟨head, tail⟩ := noneInCons.mp none
    rw [List.cons_append, fromFirst?, if_neg (by rwa [List.isPrefixOf_iff_prefix]), ih tail]

theorem throughFirstPast {rest : List Char} (none : NoneIn p s rest) :
    throughFirst p (s ++ rest) = s ++ throughFirst p rest := by
  induction s with
  | nil => rfl
  | cons c s ih =>
    obtain ⟨head, tail⟩ := noneInCons.mp none
    rw [List.cons_append, throughFirst, if_neg (by rwa [List.isPrefixOf_iff_prefix]), ih tail,
      List.cons_append]

theorem throughFirstHere (nonempty : p ≠ []) (rest : List Char) : throughFirst p (p ++ rest) = p := by
  cases p with
  | nil => exact absurd rfl nonempty
  | cons c tail =>
    rw [List.cons_append, throughFirst, if_pos (startsHere c tail rest)]

end FeatureStore.Text
