import AccessWindow.Lifecycle.Keeper
import AccessWindow.Lifecycle.Provision

namespace AccessWindow.Lifecycle

open Program

/-- That the request is gone already is as good. -/
def removeRequest (r : Request) : Program Outcome := do
  match ← ask (.removeRequest r.name) with
  | .ok () | .error (.notFound _) => return .done
  | .error f => fail f

def declineTicket (r : Request) (key : String) (edition : Edition) : Program Unit := do
  match ← ask (.transition key edition.rulebook.rejectTransition) with
  | .ok () =>
    let _ ← ask (.commentOn key (Ticket.rejectedNote r.status.message))
  | .error (.notFound _) => return
  | .error f => fail f

def clearRejected (r : Request) (edition : Edition) : Program Outcome := do
  let _ ← revokeAll r
  if let some key := r.status.ticket.key? then declineTicket r key edition
  removeRequest r

def expire (r : Request) : Program Outcome := do
  match r.closes.until? (← now) with
  | some delay => return .again delay
  | none =>
    let _ ← revokeAll r
    removeRequest r

end AccessWindow.Lifecycle
