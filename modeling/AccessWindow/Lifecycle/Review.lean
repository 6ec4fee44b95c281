import AccessWindow.Lifecycle.Closing
import AccessWindow.Validator

namespace AccessWindow.Lifecycle.Keeper

open Program

/-- Opens the approval ticket and puts its key on record before anything else. Gives no ticket if
the request was rejected instead, because the tracker does not know who asks. -/
def requestApproval (keeper : Keeper) (r : Request) (edition : Edition) :
    Program (Option (Request × String)) := do
  match ← Validator.account? r.spec.reporter with
  | none =>
    let _ ← keeper.reject r .validationFailed
      ("failed to find reporter user: " ++ r.spec.reporter) .skipped
    return none
  | some account =>
    let key ← call (.raiseTicket (.ofRequest r.spec account edition))
    let r ← keeper.record r ⟨.fresh, "Jira ticket " ++ key ++ " created", .issue key⟩
    return some (r, key)

def awaitWindow (keeper : Keeper) (r : Request) (key : String) (edition : Edition) :
    Program Outcome := do
  let start := r.spec.start
  match start.until? (← now) with
  | none =>
    keeper.reject r .validationFailed
      ("start time " ++ Time.Rfc3339.offsetText start ++ " must be after current time") (.issue key)
  | some delay =>
    call (.commentOn key (Ticket.preApprovedNote r.spec edition.rulebook.comment))
    keeper.announce r .preApproved ("ClusterRole '" ++ r.spec.role ++ "' is allowed\nJira: " ++ key)
    let _ ← keeper.record r ⟨.preApproved, Ticket.preApprovalMessage, .issue key⟩
    return .again delay

def judge (keeper : Keeper) (r : Request) (key : String) (edition : Edition) : Program Outcome := do
  if edition.allowsRole r.spec.role = false then
    keeper.reject r .validationFailed
      ("ClusterRole '" ++ r.spec.role ++ "' is not allowed") (.issue key)
  else if let some v := Policy.windowViolation? r.spec then
    keeper.reject r .validationFailed v.message (.issue key)
  else
    match ← Validator.scopeViolation? r.spec edition (!keeper.labelsAtAdmission) with
    | some v =>
      keeper.reject r .validationFailed
        ("Namespace(s) " ++ Text.join ", " r.spec.namespaces ++ " not validated | Error: "
          ++ v.message)
        (.issue key)
    | none => keeper.awaitWindow r key edition

def review (keeper : Keeper) (r : Request) (edition : Edition) : Program Outcome := do
  if r.status.ticket = .skipped then clearRejected r edition
  else if let some name := Policy.missingField? r.spec edition then
    keeper.reject r .validationFailed ("missing custom field: " ++ name) .skipped
  else
    match r.status.ticket.key? with
    | some key => keeper.judge r key edition
    | none =>
      match ← keeper.requestApproval r edition with
      | some (r, key) => keeper.judge r key edition
      | none => return .done

end AccessWindow.Lifecycle.Keeper
