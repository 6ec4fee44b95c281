import AccessWindow.Lifecycle.Closing

namespace AccessWindow.Lifecycle

open Program

def ticketApproved (key : String) (edition : Edition) : Program Bool := do
  match ← ask (.stateOfTicket key) with
  | .ok status => return status = edition.rulebook.approvedStatus
  | .error (.notFound _) => return false
  | .error f => fail f

def finishTicket (key : String) (edition : Edition) : Program Unit := do
  match ← ask (.commentOn key Ticket.doneNote) with
  | .ok () =>
    match ← ask (.transition key edition.rulebook.completeTransition) with
    | .ok () | .error (.notFound _) => return
    | .error f => fail f
  | .error (.notFound _) => return
  | .error f => fail f

namespace Keeper

def giveAccess (keeper : Keeper) (r : Request) : Program Unit := do
  match ← attempt (grantAll r) with
  | .ok () => return
  | .error f =>
    keeper.announce r .failedGrant f.text
    fail f

def recordAccess (keeper : Keeper) (r : Request) : Program Outcome := do
  expire (← keeper.record r ⟨.succeeded, Ticket.grantedMessage, r.status.ticket⟩)

/-- Opens the window of a request. Grants that exist although the ticket is not approved any more
come from an opening that was approved and then broke off; it is carried on. -/
def openWindow (keeper : Keeper) (r : Request) (edition : Edition) : Program Outcome := do
  match r.opens.until? (← now) with
  | some delay => return .again delay
  | none =>
    let approved ←
      match r.status.ticket.key? with
      | some key => ticketApproved key edition
      | none => pure false
    if approved then
      keeper.giveAccess r
      if let some key := r.status.ticket.key? then finishTicket key edition
      keeper.recordAccess r
    else if ← holdsGrant r then
      keeper.giveAccess r
      keeper.recordAccess r
    else keeper.reject r .ticketNotApproved "Jira ticket has not been approved" r.status.ticket

end Keeper

end AccessWindow.Lifecycle
