import FeatureStore.Task
import FeatureStore.Text.Quoted

/-!
Watching a job. The body of a job ends in some way, and a second task then publishes the status that
everybody sees; a shutdown may stop either of the two. A wait ends when a status has been published
or when nobody is left who could.
-/
namespace FeatureStore

inductive JobStatus where
  | running
  | succeeded
  | failed (message : String)
  deriving DecidableEq, Repr

namespace JobStatus

def isTerminal : JobStatus → Bool
  | running => false
  | _ => true

def describe : JobStatus → String
  | running => "Running"
  | succeeded => "Succeeded"
  | failed message => "Failed(" ++ Text.quoted message ++ ")"

end JobStatus

inductive Outcome where
  | success
  | failure (message : String)
  | panic
  | cancelled
  deriving DecidableEq, Repr

def Outcome.status : Outcome → JobStatus
  | success => .succeeded
  | failure message => .failed message
  | panic => .failed "job panicked"
  | cancelled => .failed "job cancelled"

structure Watcher where
  job : String
  status : JobStatus
  pending : Bool
  deriving DecidableEq, Repr

namespace Watcher

def isComplete (w : Watcher) : Bool := w.status.isTerminal

def describe (w : Watcher) : String :=
  "JobWatcher \x7b job: " ++ Text.quoted w.job ++ ", status: " ++ w.status.describe ++ " \x7d"

def result (job : String) : JobStatus → Except Error Unit
  | .succeeded => .ok ()
  | .failed message => .error (.jobFailed job message)
  | .running => .error (.internal ("job '" ++ job ++ "' observed running after settling"))

def wait? (w : Watcher) : Option (Except Error Unit) :=
  if w.status.isTerminal then some (result w.job w.status)
  else if w.pending then none
  else some (result w.job Outcome.cancelled.status)

def started (job : String) : Watcher := ⟨job, .running, true⟩

def start (inRuntime : Bool) (job : String) : Except Error Watcher :=
  if inRuntime then .ok (started job)
  else .error (.internal ("job '" ++ job ++ "' must be started inside a Tokio runtime"))

def completed (job : String) (result : Except Error Unit) : Watcher :=
  match result with
  | .ok () => ⟨job, .succeeded, false⟩
  | .error e => ⟨job, .failed e.message, false⟩

def settle (o : Outcome) (w : Watcher) : Watcher := { w with status := o.status }

def publish (o : Outcome) (w : Watcher) : Watcher := { w with status := o.status, pending := false }

def abandon (w : Watcher) : Watcher := { w with pending := false }

end Watcher

structure Execution where
  watcher : Watcher
  body : Option Outcome
  deriving DecidableEq, Repr

namespace Execution

inductive Event where
  | finish (o : Outcome)
  | settle
  | abandon
  deriving DecidableEq, Repr

def start (job : String) : Execution := ⟨.started job, none⟩

/-- A body ends once. The publishing task waits for that and publishes once, if it is not stopped
before. An event that cannot happen now changes nothing. -/
def next (x : Execution) : Event → Execution
  | .finish o =>
    match x.body with
    | none => { x with body := some o }
    | some _ => x
  | .settle =>
    match x.body with
    | some o =>
      if x.watcher.pending = true ∧ x.watcher.status = .running then
        { x with watcher := x.watcher.settle o }
      else x
    | none => x
  | .abandon => { x with watcher := x.watcher.abandon }

end Execution
end FeatureStore
