import AccessWindow.Lifecycle.Reconcile
import AccessWindow.Rulebook.Supply
import AccessWindow.Schedule

namespace AccessWindow.Worker

open Program

structure Settings where
  keeper : Lifecycle.Keeper
  poll : Time.Duration
  failurePause : Time.Duration
  concurrency : Nat

def listed (r : Request) : Schedule.Listed := ⟨r.name, r.version, r.spec.namespaces⟩

/-- Without any rules in force there is nothing to do; rules in force stay so if they cannot be
renewed. -/
def takeStock : Program (List Request) := do
  match ← attempt Rulebook.refresh with
  | .ok _ => call .allRequests
  | .error f =>
    match ← perform .edition with
    | some _ => call .allRequests
    | none => fail f

def task (keeper : Lifecycle.Keeper) (t : Schedule.Task) : Program Lifecycle.Outcome :=
  keeper.reconcile t.name t.namespaces

def record (s : Schedule) (t : Schedule.Task) (result : Except Fault Lifecycle.Outcome)
    (now : Instant) : Schedule :=
  match result with
  | .ok outcome => s.noteSuccess t outcome now
  | .error _ => s.noteFailure t now

def wait (poll : Time.Duration) (s : Schedule) (now : Instant) : Time.Duration :=
  (s.nextDue? now).elim poll (min poll)

end AccessWindow.Worker
