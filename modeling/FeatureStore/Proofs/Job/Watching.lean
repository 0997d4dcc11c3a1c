import FeatureStore.Job.Watcher

/-!
A job under any number of observers. Its body, the task that publishes its status and every observer
take their steps in any order, and a shutdown may stop either of the two tasks at any point. A wait is
not one step: it looks at the status, then asks whether another one has come or none can come any more,
and looks again. What carries the results is `Watcher.wait?`: once it has an answer, neither the answer
nor the status changes.
-/
namespace FeatureStore

inductive Waiting where
  | looking
  | asking
  deriving DecidableEq, Repr

inductive Sight where
  | status (who : Nat) (s : JobStatus)
  | complete (who : Nat) (answer : Bool)
  | result (who : Nat) (r : Except Error Unit)

structure Watching where
  execution : Execution
  waiting : Nat → Option Waiting
  seen : List Sight

namespace Watching

inductive Event where
  | job (e : Execution.Event)
  | status (who : Nat)
  | complete (who : Nat)
  | wait (who : Nat)
  | look (who : Nat)
  | ask (who : Nat)

def start (job : String) : Watching := ⟨.start job, fun _ => none, []⟩

def tell (x : Watching) (s : Sight) : Watching := { x with seen := x.seen ++ [s] }

def put (x : Watching) (who : Nat) (w : Option Waiting) : Watching :=
  { x with waiting := fun other => if other = who then w else x.waiting other }

def next (x : Watching) : Event → Watching
  | .job e => { x with execution := x.execution.next e }
  | .status who => x.tell (.status who x.execution.watcher.status)
  | .complete who => x.tell (.complete who x.execution.watcher.isComplete)
  | .wait who =>
    match x.waiting who with
    | none => x.put who (some .looking)
    | some _ => x
  | .look who =>
    match x.waiting who with
    | some .looking =>
      let w := x.execution.watcher
      if w.status.isTerminal then (x.put who none).tell (.result who (Watcher.result w.job w.status))
      else x.put who (some .asking)
    | _ => x
  | .ask who =>
    match x.waiting who with
    | some .asking =>
      let w := x.execution.watcher
      if w.status.isTerminal then x.put who (some .looking)
      else if w.pending then x
      else (x.put who none).tell (.result who (Watcher.result w.job Outcome.cancelled.status))
    | _ => x

def after (job : String) (events : List Event) : Watching := events.foldl next (start job)

end Watching

namespace Execution
variable {x : Execution} {e : Event} {r : Except Error Unit}

def Deserted (x : Execution) : Prop := x.watcher.pending = false ∧ x.watcher.status = .running

instance (x : Execution) : Decidable x.Deserted := inferInstanceAs (Decidable (_ ∧ _))

theorem unstopped (job : String) (o : Outcome) :
    (((start job).next (.finish o)).next .settle).next .abandon =
      ⟨(Watcher.started job).publish o, some o⟩ := rfl

theorem jobKept (x : Execution) (e : Event) : (x.next e).watcher.job = x.watcher.job := by
  cases e with
  | finish o => simp only [next]; split <;> rfl
  | settle =>
    simp only [next]
    split
    · split <;> rfl
    · rfl
  | abandon => rfl

def Published (x : Execution) : Prop :=
  x.watcher.status = .running ∨ ∃ o, x.body = some o ∧ x.watcher.status = o.status

theorem publishedNext (published : x.Published) (e : Event) : (x.next e).Published := by
  cases e with
  | finish o =>
    simp only [next]
    split
    · rename_i unfinished
      rcases published with running | ⟨o', ended, -⟩
      · exact .inl running
      · rw [unfinished] at ended
        cases ended
    · exact published
  | settle =>
    simp only [next]
    split
    · rename_i o ended
      split
      · exact .inr ⟨o, ended, rfl⟩
      · exact published
    · exact published
  | abandon => exact published

theorem terminalIff {s : JobStatus} : s.isTerminal = true ↔ s ≠ .running := by
  cases s <;> simp [JobStatus.isTerminal]

theorem runningIff {s : JobStatus} : ¬ s.isTerminal = true ↔ s = .running := by
  cases s <;> simp [JobStatus.isTerminal]

theorem answeredIff : x.watcher.wait? = some r ↔
    (x.watcher.status ≠ .running ∧ r = Watcher.result x.watcher.job x.watcher.status) ∨
      (x.Deserted ∧ r = .error (.jobFailed x.watcher.job "job cancelled")) := by
  unfold Watcher.wait? Deserted
  cases status : x.watcher.status with
  | running =>
    cases pending : x.watcher.pending with
    | true => simp [JobStatus.isTerminal]
    | false => simp [JobStatus.isTerminal, Watcher.result, Outcome.status, @eq_comm _ r]
  | succeeded => simp [JobStatus.isTerminal, @eq_comm _ r]
  | failed message => simp [JobStatus.isTerminal, @eq_comm _ r]

theorem statusKept (terminal : x.watcher.status ≠ .running) (e : Event) :
    (x.next e).watcher.status = x.watcher.status := by
  cases e with
  | finish o => simp only [next]; split <;> rfl
  | settle =>
    simp only [next]
    split
    · rw [if_neg fun c => terminal c.2]
    · rfl
  | abandon => rfl

theorem desertedKept (deserted : x.Deserted) (e : Event) : (x.next e).Deserted := by
  cases e with
  | finish o => simp only [next]; split <;> exact deserted
  | settle =>
    simp only [next]
    split
    · rw [if_neg fun c => by simp [deserted.1] at c]
      exact deserted
    · exact deserted
  | abandon => exact ⟨rfl, deserted.2⟩

theorem answeredStill (answered : x.watcher.wait? = some r) (e : Event) :
    (x.next e).watcher.status = x.watcher.status := by
  rcases answeredIff.mp answered with ⟨terminal, -⟩ | ⟨deserted, -⟩
  · exact statusKept terminal e
  · rw [deserted.2, (desertedKept deserted e).2]

theorem answeredKept (answered : x.watcher.wait? = some r) (e : Event) :
    (x.next e).watcher.wait? = some r := by
  have still := answeredStill answered e
  rcases answeredIff.mp answered with ⟨terminal, same⟩ | ⟨deserted, same⟩
  · exact answeredIff.mpr (.inl ⟨still ▸ terminal, by rw [jobKept, still, same]⟩)
  · exact answeredIff.mpr (.inr ⟨desertedKept deserted e, by rw [jobKept, same]⟩)

end Execution

namespace Watching
open Execution (answeredIff answeredKept answeredStill Deserted)
variable {x : Watching} {job : String}

/- What an observer can have seen after something was seen, while the job is as it is. -/
def Follows (w : Watcher) : Sight → Sight → Prop
  | .status _ s, .status _ s' => s ≠ .running → s' = s
  | .result _ _, .status _ s => s = w.status
  | .result _ _, .complete _ answer => answer = w.isComplete
  | _, _ => True

structure Sound (job : String) (x : Watching) : Prop where
  named : x.execution.watcher.job = job
  published : x.execution.Published
  results {who : Nat} {r : Except Error Unit} :
    .result who r ∈ x.seen → x.execution.watcher.wait? = some r
  statuses {who : Nat} {s : JobStatus} :
    .status who s ∈ x.seen → s = .running ∨ s = x.execution.watcher.status
  completes {who : Nat} {answer : Bool} :
    .complete who answer ∈ x.seen → answer = false ∨ answer = x.execution.watcher.isComplete
  ordered : x.seen.Pairwise (Follows x.execution.watcher)

namespace Sound

theorem start (job : String) : Sound job (start job) where
  named := rfl
  published := .inl rfl
  results mem := by cases mem
  statuses mem := by cases mem
  completes mem := by cases mem
  ordered := .nil

theorem put (sound : Sound job x) (who : Nat) (w : Option Waiting) : Sound job (x.put who w) :=
  ⟨sound.named, sound.published, sound.results, sound.statuses, sound.completes, sound.ordered⟩

theorem jobNext (sound : Sound job x) (e : Execution.Event) :
    Sound job { x with execution := x.execution.next e } where
  named := (x.execution.jobKept e).trans sound.named
  published := x.execution.publishedNext sound.published e
  results mem := answeredKept (sound.results mem) e
  statuses mem := by
    by_cases running : x.execution.watcher.status = .running
    · rcases sound.statuses mem with old | same
      · exact .inl old
      · exact .inl (same.trans running)
    · rw [Execution.statusKept running e]
      exact sound.statuses mem
  completes mem := by
    by_cases running : x.execution.watcher.status = .running
    · rcases sound.completes mem with old | same
      · exact .inl old
      · exact .inl (by rw [same, Watcher.isComplete, running]; rfl)
    · rw [Watcher.isComplete, Execution.statusKept running e]
      exact sound.completes mem
  ordered := by
    refine sound.ordered.imp_of_mem fun {a b} first _ follows => ?_
    cases a with
    | result who r =>
      have still := answeredStill (sound.results first) e
      cases b with
      | status _ s => exact follows.trans still.symm
      | complete _ answer =>
        exact follows.trans (congrArg JobStatus.isTerminal still.symm)
      | result _ _ => trivial
    | status _ s => cases b <;> exact follows
    | complete _ _ => trivial

theorem tell (sound : Sound job x) {s : Sight}
    (result : ∀ who r, s = .result who r → x.execution.watcher.wait? = some r)
    (status : ∀ who t, s = .status who t → t = x.execution.watcher.status)
    (complete : ∀ who answer, s = .complete who answer → answer = x.execution.watcher.isComplete) :
    Sound job (x.tell s) where
  named := sound.named
  published := sound.published
  results mem := by
    rcases List.mem_append.mp mem with old | new
    · exact sound.results old
    · exact result _ _ (List.mem_singleton.mp new).symm
  statuses mem := by
    rcases List.mem_append.mp mem with old | new
    · exact sound.statuses old
    · exact .inr (status _ _ (List.mem_singleton.mp new).symm)
  completes mem := by
    rcases List.mem_append.mp mem with old | new
    · exact sound.completes old
    · exact .inr (complete _ _ (List.mem_singleton.mp new).symm)
  ordered := by
    refine List.pairwise_append.mpr ⟨sound.ordered, List.pairwise_singleton .., fun a first b last => ?_⟩
    rw [List.mem_singleton.mp last]
    cases a with
    | result who r =>
      cases s with
      | status _ t => exact status _ _ rfl
      | complete _ answer => exact complete _ _ rfl
      | result _ _ => trivial
    | status who t =>
      cases s with
      -- Only a terminal status bounds what is read after it.
      | status _ t' =>
        intro terminal
        have same := (sound.statuses first).resolve_left terminal
        exact (status _ _ rfl).trans same.symm
      | _ => trivial
    | complete _ _ => cases s <;> trivial

theorem next (sound : Sound job x) (e : Event) : Sound job (x.next e) := by
  cases e with
  | job e => exact sound.jobNext e
  | status who => exact sound.tell (by simp) (by simp) (by simp)
  | complete who => exact sound.tell (by simp) (by simp) (by simp)
  | wait who =>
    simp only [Watching.next]
    split
    · exact sound.put who _
    · exact sound
  -- A wait returns at a look that finds a terminal status,
  | look who =>
    simp only [Watching.next]
    split
    · split
      · rename_i terminal
        have now := answeredIff.mpr (.inl ⟨Execution.terminalIff.mp terminal, rfl⟩)
        refine (sound.put who none).tell (fun _ r same => ?_) (by simp) (by simp)
        cases same
        exact now
      · exact sound.put who _
    · exact sound
  -- or when it asks and nobody is left to publish one.
  | ask who =>
    simp only [Watching.next]
    split
    · split
      · exact sound.put who _
      · rename_i unfinished
        split
        · exact sound
        · rename_i unpending
          have running := Execution.runningIff.mp unfinished
          have now := answeredIff.mpr (.inr ⟨⟨by simpa using unpending, running⟩, rfl⟩)
          refine (sound.put who none).tell (fun _ r same => ?_) (by simp) (by simp)
          cases same
          exact now
    · exact sound

theorem after (job : String) (events : List Event) : Sound job (Watching.after job events) := by
  suffices h : ∀ x, Sound job x → Sound job (events.foldl Watching.next x) from h _ (start job)
  induction events with
  | nil => exact fun _ sound => sound
  | cons e rest ih => exact fun x sound => ih _ (sound.next e)

theorem resultOf (sound : Sound job x) {who : Nat} {r : Except Error Unit}
    (returned : .result who r ∈ x.seen) :
    (r = .ok () ∧ x.execution.body = some .success) ∨
      ∃ message, r = .error (.jobFailed job message) ∧
        (x.execution.body = some (.failure message) ∨
          (message = "job panicked" ∧ x.execution.body = some .panic) ∨
          (message = "job cancelled" ∧
            (x.execution.body = some .cancelled ∨ x.execution.Deserted))) := by
  rcases answeredIff.mp (sound.results returned) with ⟨terminal, same⟩ | ⟨deserted, same⟩
  · obtain ⟨o, ended, status⟩ := sound.published.resolve_left terminal
    rw [status, sound.named] at same
    cases o with
    | success => exact .inl ⟨same, ended⟩
    | failure message => exact .inr ⟨message, same, .inl ended⟩
    | panic => exact .inr ⟨_, same, .inr (.inl ⟨rfl, ended⟩)⟩
    | cancelled => exact .inr ⟨_, same, .inr (.inr ⟨rfl, .inl ended⟩)⟩
  · rw [sound.named] at same
    exact .inr ⟨_, same, .inr (.inr ⟨rfl, .inr deserted⟩)⟩

theorem seenAfter (sound : Sound job x) {before later : List Sight} {who : Nat}
    {r : Except Error Unit} (returned : x.seen = before ++ .result who r :: later) :
    (∀ other s, .status other s ∈ later → s = x.execution.watcher.status) ∧
      ∀ other answer, .complete other answer ∈ later → answer = x.execution.watcher.isComplete := by
  have ordered := sound.ordered
  rw [returned] at ordered
  have follows := (List.pairwise_cons.mp (List.pairwise_append.mp ordered).2.1).1
  exact ⟨fun other s mem => follows (.status other s) mem,
    fun other answer mem => follows (.complete other answer) mem⟩

end Sound

/-- Whatever order things happen in, a job settles once: all waits that return give one result, which
is the success of the body or its failure by name, and a terminal status that anybody has read is the
status that everybody reads from then on. -/
theorem settlesOnce (job : String) (events : List Event) :
    let x := after job events
    (∀ who other r r', .result who r ∈ x.seen → .result other r' ∈ x.seen → r = r') ∧
    (∀ who r, .result who r ∈ x.seen →
      (r = .ok () ∧ x.execution.body = some .success) ∨
        ∃ message, r = .error (.jobFailed job message) ∧
          (x.execution.body = some (.failure message) ∨
            (message = "job panicked" ∧ x.execution.body = some .panic) ∨
            (message = "job cancelled" ∧
              (x.execution.body = some .cancelled ∨ x.execution.Deserted)))) ∧
    (∀ who message, .result who (.error (.internal message)) ∉ x.seen) ∧
    ∀ before later who s, x.seen = before ++ .status who s :: later → s.isTerminal = true →
      (∀ other s', .status other s' ∈ later → s' = s) ∧ x.execution.watcher.status = s := by
  intro x
  have sound : Sound job x := .after job events
  refine ⟨fun who other r r' first second => ?_, fun who r => sound.resultOf,
    fun who message returned => ?_, fun before later who s seen terminal => ?_⟩
  · exact Option.some.inj ((sound.results first).symm.trans (sound.results second))
  · rcases sound.resultOf returned with ⟨success, -⟩ | ⟨_, failed, -⟩
    · cases success
    · cases failed
  · have settled := Execution.terminalIff.mp terminal
    have ordered := sound.ordered
    rw [seen] at ordered
    have follows := (List.pairwise_cons.mp (List.pairwise_append.mp ordered).2.1).1
    refine ⟨fun other s' mem => follows (.status other s') mem settled, ?_⟩
    have told := sound.statuses (show .status who s ∈ x.seen by simp [seen])
    exact (told.resolve_left settled).symm

structure Agrees (job : String) (r : Except Error Unit) (s : JobStatus) : Prop where
  terminal : s.isTerminal = true
  success : s = .succeeded ↔ r = .ok ()
  failure (message : String) : s = .failed message ↔ r = .error (.jobFailed job message)

theorem resultAgrees {s : JobStatus} (terminal : s ≠ .running) :
    Agrees job (Watcher.result job s) s := by
  cases s with
  | running => exact absurd rfl terminal
  | succeeded => exact ⟨rfl, by simp [Watcher.result], by simp [Watcher.result]⟩
  | failed message => exact ⟨rfl, by simp [Watcher.result], by simp [Watcher.result]⟩

/-- After a wait has returned, every status agrees with its result unless the publishing task was
stopped before it published. In that case every wait says that the job was cancelled and every status,
at any time, that it runs. -/
theorem statusFollowsWait (job : String) (events : List Event) (before later : List Sight) (who : Nat)
    (r : Except Error Unit) (returned : (after job events).seen = before ++ .result who r :: later) :
    let x := after job events
    (¬ x.execution.Deserted →
      Agrees job r x.execution.watcher.status ∧ x.execution.watcher.isComplete = true ∧
      (∀ other s, .status other s ∈ later → Agrees job r s) ∧
      ∀ other answer, .complete other answer ∈ later → answer = true) ∧
    (x.execution.Deserted →
      r = .error (.jobFailed job "job cancelled") ∧ x.execution.watcher.status = .running ∧
      (∀ other s, .status other s ∈ x.seen → s = .running) ∧
      ∀ other answer, .complete other answer ∈ x.seen → answer = false) := by
  intro x
  have sound : Sound job x := .after job events
  have told := sound.results (show .result who r ∈ x.seen by simp [x, returned])
  have answered := answeredIff.mp told
  obtain ⟨statuses, completes⟩ := sound.seenAfter returned
  refine ⟨fun kept => ?_, fun deserted => ?_⟩
  · obtain ⟨terminal, same⟩ := answered.resolve_right fun c => kept c.1
    have agrees : Agrees job r x.execution.watcher.status := by
      rw [same, sound.named]
      exact resultAgrees terminal
    refine ⟨agrees, agrees.terminal, fun other s mem => ?_, fun other answer mem => ?_⟩
    · rw [statuses other s mem]
      exact agrees
    · rw [completes other answer mem]
      exact agrees.terminal
  · obtain ⟨-, same⟩ := answered.resolve_left fun c => c.1 deserted.2
    refine ⟨by rw [same, sound.named], deserted.2, fun other s mem => ?_, fun other answer mem => ?_⟩
    · rcases sound.statuses mem with running | now
      · exact running
      · exact now.trans deserted.2
    · rcases sound.completes mem with unfinished | now
      · exact unfinished
      · rw [now, Watcher.isComplete, deserted.2]
        rfl

def diskFull : List Event :=
  [.wait 0, .look 0, .status 1, .job (.finish (.failure "disk full")), .ask 0, .job .settle, .ask 0,
    .look 0, .status 1, .complete 2]

theorem statusFollowsWaitDiskFull :
    (after "export" diskFull).seen = [.status 1 .running,
      .result 0 (.error (.jobFailed "export" "disk full")), .status 1 (.failed "disk full"),
      .complete 2 true] ∧
    Agrees "export" (.error (.jobFailed "export" "disk full")) (.failed "disk full") :=
  ⟨rfl, ((statusFollowsWait "export" diskFull [.status 1 .running] _ 0 _ rfl).1
    (by decide)).2.2.1 1 (.failed "disk full") List.mem_cons_self⟩

theorem statusMissesShutdown :
    (after "export" [.wait 0, .look 0, .job .abandon, .ask 0, .status 1, .complete 2]).seen =
      [.result 0 (.error (.jobFailed "export" "job cancelled")), .status 1 .running,
        .complete 2 false] ∧
    ¬ Agrees "export" (.error (.jobFailed "export" "job cancelled")) .running :=
  ⟨rfl, fun agrees => by cases agrees.terminal⟩

end Watching
end FeatureStore
