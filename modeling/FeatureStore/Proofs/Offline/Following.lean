import FeatureStore.Offline.Postgres.Store
import FeatureStore.Proofs.Dialog

/-!
Tasks of the PostgreSQL store that send a list of requests in order. A task follows its list when it
sends each request as soon as the reply to the one before lets it go on, and ends with an error at the
first reply that does not. Lists are joined as tasks are, so that each statement needs one fact only.
-/
namespace FeatureStore.Postgres
variable {α β : Type}

abbrev Heard (α : Type) := Option (Except Failure α × List Reply) × List Request

def heard (t : Task Talk α) (replies : List Reply) : Heard α := t.run.replay replies

def met : Request → Reply → Bool
  | .connection, .refused _ => false
  | .batch _, .failed _ | .query _ _, .failed _ | .prepare _, .failed _ => false
  | _, _ => true

structure Given where
  word : String
  builds : List String
  deriving DecidableEq, Repr

def wordOf : Reply → String
  | .token word => word
  | _ => ""

def nameOf (row : List Cell) : Option String := row[0]?.bind Cell.asText

/-- What a call has to read in a reply to go on: a table that it needs is there, a materialization that
it creates has no build, and one that it deletes has some. -/
def Suits (g : Given) : Request → Reply → Prop
  | .token, reply => wordOf reply = g.word
  | .query sql _, reply =>
    (sql = tableTypeQuery → (rowsOf reply).length = 1) ∧
    (sql = currentBuildQuery → rowsOf reply = []) ∧
    (sql = deleteBuilds → rowsOf reply ≠ [] ∧ (rowsOf reply).filterMap nameOf = g.builds)
  | _, _ => True

def Warrants (g : Given) (e : Request × Reply) : Prop := met e.1 e.2 = true ∧ Suits g e.1 e.2

def Typed : Request × Reply → Prop
  | (.query sql _, reply) => sql = tableTypeQuery ∨ sql = deleteBuilds →
      ∀ row ∈ rowsOf reply, ∃ name, row[0]? = some (.text (some name))
  | _ => True

inductive Follows (g : Given) : List Request → List Reply → Heard α → Prop where
  | through (a : α) (rest : List Reply) : Follows g [] rest (some (.ok a, rest), [])
  | waiting (r : Request) (plan : List Request) : Follows g (r :: plan) [] (none, [r])
  | stopped {r : Request} {reply : Reply} (unwarranted : ¬ Warrants g (r, reply))
      (plan : List Request) (rest : List Reply) (e : Error) :
      Follows g (r :: plan) (reply :: rest) (some (.error (.error e), rest), [r])
  | next {r : Request} {reply : Reply} {plan : List Request} {rest : List Reply}
      {result : Option (Except Failure α × List Reply)} {sent : List Request}
      (warranted : Warrants g (r, reply)) (later : Follows g plan rest (result, sent)) :
      Follows g (r :: plan) (reply :: rest) (result, r :: sent)

def Heard.andThen (x : Heard α) (k : α → List Reply → Heard β) : Heard β :=
  match x with
  | (some (.ok a, rest), sent) => ((k a rest).1, sent ++ (k a rest).2)
  | (some (.error f, rest), sent) => (some (.error f, rest), sent)
  | (none, sent) => (none, sent)

theorem heardBind (t : Task Talk α) (f : α → Task Talk β) (replies : List Reply) :
    heard (t >>= f) replies = (heard t replies).andThen fun a rest => heard (f a) rest := by
  have opened : heard (t >>= f) replies = (t.run.bind (ExceptT.bindCont f)).replay replies := rfl
  rw [opened, Dialog.replayBind, heard]
  rcases t.run.replay replies with ⟨_ | ⟨_ | a, rest⟩, sent⟩
  · rfl
  · simp [Heard.andThen, ExceptT.bindCont, Dialog.replay, pure]
  · rfl

theorem Follows.andThen {g : Given} {first second : List Request} {replies : List Reply}
    {x : Heard α} {k : α → List Reply → Heard β} (leads : Follows g first replies x)
    (goes : ∀ a rest, x = (some (.ok a, rest), first) → Follows g second rest (k a rest)) :
    Follows g (first ++ second) replies (x.andThen k) := by
  induction leads with
  | through a rest => simpa [Heard.andThen] using goes a rest rfl
  | waiting r plan => exact .waiting r _
  | stopped unwarranted plan rest e => exact .stopped unwarranted _ rest e
  | @next r reply plan rest result sent warranted later ih =>
    have more := ih fun a left same => goes a left (by cases same; rfl)
    rcases result with _ | ⟨_ | a, left⟩
    · exact .next warranted more
    · exact .next warranted more
    · exact .next warranted more

/- A task that follows a list on a script whose replies have the types that were asked for. -/
def Pursues (g : Given) (plan : List Request) (t : Task Talk α) (replies : List Reply) : Prop :=
  (∀ e ∈ (heard t replies).2.zip replies, Typed e) → Follows g plan replies (heard t replies)

theorem heardRest {t : Task Talk α} {replies rest : List Reply} {a : α} {sent : List Request}
    (ended : heard t replies = (some (.ok a, rest), sent)) : rest = replies.drop sent.length := by
  obtain ⟨taken, rfl, same⟩ := Dialog.replayTakes ended
  rw [← same, List.drop_left]

theorem zipAhead {sent more : List Request} (replies : List Reply) :
    sent.zip replies <+: (sent ++ more).zip replies := by
  induction sent generalizing replies with
  | nil => exact List.nil_prefix
  | cons r sent ih =>
    cases replies with
    | nil => exact List.nil_prefix
    | cons reply replies => exact List.prefix_cons_inj _ |>.mpr (ih replies)

theorem zipBehind (sent more : List Request) (replies : List Reply) :
    more.zip (replies.drop sent.length) <:+ (sent ++ more).zip replies := by
  induction sent generalizing replies with
  | nil => exact List.suffix_rfl
  | cons r sent ih =>
    cases replies with
    | nil => simp
    | cons reply replies => exact (ih replies).trans (List.suffix_cons _ _)

theorem Pursues.bind {g : Given} {first second : List Request} {t : Task Talk α}
    {f : α → Task Talk β} {replies : List Reply} (leads : Pursues g first t replies)
    (goes : ∀ a rest, rest = replies.drop first.length → Pursues g second (f a) rest) :
    Pursues g (first ++ second) (t >>= f) replies := by
  intro typed
  rw [heardBind] at typed ⊢
  refine (leads fun e mem => typed e ?_).andThen fun a rest ended => ?_
  · rcases same : heard t replies with ⟨_ | ⟨_ | a, rest⟩, sent⟩ <;> rw [same] at mem
    · exact mem
    · exact mem
    · exact (zipAhead replies).subset mem
  · have left := heardRest ended
    refine goes a rest left fun e mem => typed e ?_
    rw [ended, Heard.andThen]
    subst left
    exact (zipBehind first _ replies).subset mem

namespace Follows
variable {g : Given} {plan : List Request} {replies : List Reply} {x : Heard α}

theorem ordered (follows : Follows g plan replies x) : x.2 <+: plan := by
  induction follows with
  | through a rest => exact List.prefix_rfl
  | waiting r plan => simp
  | stopped unwarranted plan rest e => simp
  | next warranted later ih => exact (List.prefix_cons_inj _).mpr ih

theorem waits (follows : Follows g plan replies x) (unanswered : x.1 = none) :
    x.2.length = replies.length + 1 := by
  induction follows with
  | through a rest => cases unanswered
  | waiting r plan => rfl
  | stopped unwarranted plan rest e => cases unanswered
  | next warranted later ih => exact congrArg (· + 1) (ih unanswered)

theorem heeded (follows : Follows g plan replies x) {i : Nat} (more : i + 1 < x.2.length) :
    ∃ e, (x.2.zip replies)[i]? = some e ∧ Warrants g e := by
  induction follows generalizing i with
  | through a rest => simp at more
  | waiting r plan => simp at more
  | stopped unwarranted plan rest e => simp at more
  | next warranted later ih =>
    cases i with
    | zero => exact ⟨_, rfl, warranted⟩
    | succ i => exact ih (by simpa using more)

theorem failed (follows : Follows g plan replies x) {f : Failure} {rest : List Reply}
    (ended : x.1 = some (.error f, rest)) :
    (∃ e, f = .error e) ∧ ∃ e, (x.2.zip replies).getLast? = some e ∧ ¬ Warrants g e := by
  induction follows with
  | through a rest => cases ended
  | waiting r plan => cases ended
  | stopped unwarranted plan rest e =>
    cases ended
    exact ⟨⟨e, rfl⟩, _, rfl, unwarranted⟩
  | next warranted later ih =>
    obtain ⟨isError, e, last, unwarranted⟩ := ih ended
    refine ⟨isError, e, ?_, unwarranted⟩
    rw [List.zip_cons_cons, List.getLast?_cons, last]
    rfl

theorem succeeded (follows : Follows g plan replies x) {a : α} {rest : List Reply}
    (ended : x.1 = some (.ok a, rest)) :
    (x.2.zip replies).map (·.1) = plan ∧ ∀ e ∈ x.2.zip replies, Warrants g e := by
  induction follows with
  | through a rest => simp
  | waiting r plan => cases ended
  | stopped unwarranted plan rest e => cases ended
  | next warranted later ih =>
    obtain ⟨answered, all⟩ := ih ended
    simp only [List.zip_cons_cons, List.map_cons, answered, true_and]
    exact List.forall_mem_cons.mpr ⟨warranted, all⟩

theorem finished {first : List Request} {last : Request} (apart : last ∉ first)
    (follows : Follows g (first ++ [last]) replies x) {reply : Reply}
    (answered : (last, reply) ∈ x.2.zip replies) (warranted : Warrants g (last, reply)) :
    ∃ a rest, x.1 = some (.ok a, rest) := by
  generalize whole : first ++ [last] = plan at follows
  induction follows generalizing first with
  | through a rest => exact ⟨a, rest, rfl⟩
  | waiting r plan => simp at answered
  | stopped unwarranted plan rest e =>
    simp only [List.zip_cons_cons, List.zip_nil_left, List.mem_singleton, Prod.mk.injEq] at answered
    obtain ⟨rfl, rfl⟩ := answered
    exact absurd warranted unwarranted
  | next _ later ih =>
    rcases first with _ | ⟨r, first⟩
    · simp only [List.nil_append, List.cons.injEq] at whole
      obtain ⟨-, rfl⟩ := whole
      cases later
      exact ⟨_, _, rfl⟩
    · simp only [List.cons_append, List.cons.injEq] at whole
      obtain ⟨rfl, rfl⟩ := whole
      rcases List.mem_cons.mp answered with same | inside
      · simp only [Prod.mk.injEq] at same
        simp [same.1] at apart
      · exact ih (fun mem => apart (List.mem_cons_of_mem _ mem)) inside rfl

end Follows
def toldBy (read : Reply → Except Refusal α) (error : Refusal → Error) : Reply → Except Error α
  | .failed state => .error (error ⟨state, serverError⟩)
  | reply => (read reply).mapError error

theorem askTold (r : Request) (read : Reply → Except Refusal α) (error : Refusal → Error) :
    ask r read error =
      ExceptT.lift (Dialog.send r) >>= fun reply => Task.ofExcept (toldBy read error reply) := by
  refine congrArg (ExceptT.lift (Dialog.send r) >>= ·) (funext fun reply => ?_)
  cases reply with
  | failed state => rfl
  | _ =>
    simp only [toldBy]
    cases read _ <;> rfl

theorem heardAsk (r : Request) (read : Reply → Except Refusal α) (error : Refusal → Error)
    (reply : Reply) (rest : List Reply) :
    heard (ask r read error) (reply :: rest) =
      (some ((toldBy read error reply).mapError .error, rest), [r]) := by
  have sent (f : Reply → Task Talk α) :
      heard (ExceptT.lift (Dialog.send r) >>= f) (reply :: rest) =
        ((heard (f reply) rest).1, r :: (heard (f reply) rest).2) := rfl
  rw [askTold, sent]
  cases toldBy read error reply <;> rfl

theorem heardAskThen (r : Request) (read : Reply → Except Refusal α) (error : Refusal → Error)
    (f : α → Task Talk β) (reply : Reply) (rest : List Reply) :
    heard (ask r read error >>= f) (reply :: rest) =
      match toldBy read error reply with
      | .ok a => ((heard (f a) rest).1, r :: (heard (f a) rest).2)
      | .error e => (some (.error (.error e), rest), [r]) := by
  rw [heardBind, heardAsk]
  rcases toldBy read error reply with e | a <;> rfl

theorem Pursues.request {g : Given} {plan : List Request} {r : Request}
    {read : Reply → Except Refusal α} {error : Refusal → Error} {f : α → Task Talk β}
    {replies : List Reply}
    (goes : ∀ reply rest, replies = reply :: rest → Typed (r, reply) →
      (∃ a, toldBy read error reply = .ok a ∧ Warrants g (r, reply) ∧ Pursues g plan (f a) rest) ∨
      ¬ Warrants g (r, reply) ∧
        ∃ e, heard (ask r read error >>= f) (reply :: rest) = (some (.error (.error e), rest), [r])) :
    Pursues g (r :: plan) (ask r read error >>= f) replies := by
  intro typed
  cases replies with
  | nil => exact .waiting _ _
  | cons reply rest =>
    have first : Typed (r, reply) := by
      refine typed _ ?_
      rw [heardAskThen]
      rcases toldBy read error reply <;> simp
    rcases goes reply rest rfl first with ⟨a, told, warranted, later⟩ | ⟨unwarranted, e, ended⟩
    · have opened := heardAskThen r read error f reply rest
      rw [told] at opened
      rw [opened] at typed ⊢
      refine .next warranted (later fun e mem => typed e ?_)
      exact List.mem_cons_of_mem _ mem
    · rw [ended]
      exact .stopped unwarranted _ _ _

theorem askPursues {g : Given} {r : Request} {error : Refusal → Error} (replies : List Reply)
    (plain : ∀ reply, Warrants g (r, reply) ↔ ∀ state, reply ≠ .failed state) :
    Pursues g [r] (ask r (fun _ => .ok ()) error) replies := by
  rw [← bind_pure (ask r (fun _ => .ok ()) error)]
  refine .request fun reply rest _ _ => ?_
  cases reply with
  | failed state =>
    exact .inr ⟨fun warranted => (plain _).mp warranted state rfl, _, heardAskThen ..⟩
  | _ => exact .inl ⟨(), rfl, (plain _).mpr (by simp), fun _ => .through _ _⟩

theorem batchPursues (g : Given) (sql : String) (error : Refusal → Error) (replies : List Reply) :
    Pursues g [.batch sql] (batch sql error) replies :=
  askPursues replies fun reply => by cases reply <;> simp [Warrants, met, Suits]

theorem executePursues (g : Given) {sql : String} (params : List Param) (error : Refusal → Error)
    (plain : sql ≠ tableTypeQuery ∧ sql ≠ currentBuildQuery ∧ sql ≠ deleteBuilds)
    (replies : List Reply) : Pursues g [.query sql params] (execute sql params error) replies :=
  askPursues replies fun reply => by cases reply <;> simp [Warrants, met, Suits, plain]

theorem connectPursues (g : Given) (replies : List Reply) :
    Pursues g [.connection] connect replies := by
  intro _
  cases replies with
  | nil => exact .waiting _ _
  | cons reply rest =>
    cases reply with
    | refused reason => exact .stopped (fun w => by simp [Warrants, met] at w) _ _ _
    | _ => exact .next ⟨rfl, trivial⟩ (.through _ _)

theorem tokenPursues {g : Given} {replies : List Reply} {plan : List Request}
    {f : String → Task Talk α} (named : ∀ reply rest, replies = reply :: rest → wordOf reply = g.word)
    (later : Pursues g plan (f g.word) (replies.drop 1)) :
    Pursues g (.token :: plan) (freshToken >>= f) replies := by
  intro typed
  cases replies with
  | nil => exact .waiting _ _
  | cons reply rest =>
    have word := named reply rest rfl
    have opened : heard (freshToken >>= f) (reply :: rest) =
        ((heard (f (wordOf reply)) rest).1, .token :: (heard (f (wordOf reply)) rest).2) := by
      cases reply <;> rfl
    rw [opened, word] at typed ⊢
    refine .next ⟨by cases reply <;> rfl, word⟩ (later fun e mem => typed e ?_)
    exact List.mem_cons_of_mem _ mem

end FeatureStore.Postgres
