import AccessWindow.Program
import AccessWindow.Retry

namespace AccessWindow.Lifecycle

open Program

inductive Outcome
  | done
  | again (delay : Time.Duration)
  deriving DecidableEq

/-- How requests are dealt with. Labels that the admission hook has checked are not checked again,
and events may be kept quiet. -/
structure Keeper where
  retry : Retry
  labelsAtAdmission : Bool
  announces : Bool
  deriving DecidableEq

/-- Writes a status with `left` more attempts to follow. A write that meets a newer version is made
again on that version after a pause. Gives the request as it was last read or stored, and how the
write went. -/
def writeStatus (retry : Retry) (update : Request.Update) :
    (left : Nat) → Request → Program (Request × Except Fault Unit)
  | left, r => do
    match ← ask (.putStatus (r.record update)) with
    | .ok stored => return (stored, .ok ())
    | .error (.conflict message) =>
      match left with
      | 0 => return (r, .error (.conflictExhausted retry.attempts message))
      | left + 1 =>
        sleep (retry.pauseAfter (retry.attempts - (left + 1)))
        match ← ask (.requestNamed r.name) with
        | .ok newer => writeStatus retry update left newer
        | .error f => return (r, .error f)
    | .error f => return (r, .error f)

def settleStatus (retry : Retry) (r : Request) (update : Request.Update) :
    Program (Request × Except Fault Unit) :=
  writeStatus retry update (retry.attempts - 1) r

namespace Keeper

def record (keeper : Keeper) (r : Request) (update : Request.Update) : Program Request := do
  match ← settleStatus keeper.retry r update with
  | (stored, .ok ()) => return stored
  | (_, .error f) => fail f

def announce (keeper : Keeper) (r : Request) (reason : Event.Reason) (message : String) :
    Program Unit := do
  if keeper.announces then
    let _ ← ask (.publishEvent ⟨r.name, r.uid, reason, message⟩)

def reject (keeper : Keeper) (r : Request) (reason : Event.Reason) (message : String)
    (ticket : TicketLink) : Program Outcome := do
  keeper.announce r reason message
  let _ ← keeper.record r ⟨.rejected, message, ticket⟩
  return .done

end Keeper

end AccessWindow.Lifecycle
