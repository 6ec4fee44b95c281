namespace AccessWindow

inductive Severity
  | normal
  | warning
  deriving DecidableEq

def Severity.name : Severity → String
  | .normal => "Normal"
  | .warning => "Warning"

namespace Event

inductive Reason
  | validationFailed
  | preApproved
  | ticketNotApproved
  | failedGrant
  deriving DecidableEq

def Reason.name : Reason → String
  | .validationFailed => "ValidationFailed"
  | .preApproved => "PreApproved"
  | .ticketNotApproved => "TicketNotApproved"
  | .failedGrant => "FailedGrant"

def Reason.severity : Reason → Severity
  | .preApproved => .normal
  | _ => .warning

end Event

structure Event where
  subject : String
  uid : String
  reason : Event.Reason
  message : String
  deriving DecidableEq

def Event.severity (e : Event) : Severity := e.reason.severity

end AccessWindow
