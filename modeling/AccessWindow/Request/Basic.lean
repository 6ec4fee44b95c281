import AccessWindow.Dict
import AccessWindow.Text.Blank
import AccessWindow.Time.Instant

namespace AccessWindow

inductive Phase
  | fresh
  | preApproved
  | succeeded
  | rejected
  | unrecognized (name : String)
  deriving DecidableEq

namespace Phase

def text : Phase → String
  | .fresh => ""
  | .preApproved => "PreApproved"
  | .succeeded => "Succeeded"
  | .rejected => "Rejected"
  | .unrecognized name => name

def ofText (s : String) : Phase :=
  if s = "" then .fresh
  else if s = "PreApproved" then .preApproved
  else if s = "Succeeded" then .succeeded
  else if s = "Rejected" then .rejected
  else .unrecognized s

def shown : Phase → String
  | .fresh => "New"
  | p => p.text

end Phase

/-- The approval ticket of a request. A skipped ticket was left out on purpose. -/
inductive TicketLink
  | unassigned
  | skipped
  | issue (key : String)
  deriving DecidableEq

namespace TicketLink

def text : TicketLink → String
  | .unassigned => ""
  | .skipped => "Skipped"
  | .issue key => key

def ofText (s : String) : TicketLink :=
  let s := Text.trim s
  if s = "" then .unassigned else if s = "Skipped" then .skipped else .issue s

def key? : TicketLink → Option String
  | .issue key => some key
  | _ => none

end TicketLink

namespace Request

structure Spec where
  reporter : String
  others : List String
  role : String
  namespaces : List String
  labels : Dict String
  start : Instant
  finish : Instant
  fields : Dict String
  deriving DecidableEq

def Spec.subjects (s : Spec) : List String := s.reporter :: s.others

def Spec.endsAfterStart (s : Spec) : Bool := s.start < s.finish

structure Status where
  phase : Phase
  message : String
  ticket : TicketLink
  start : Option Instant
  finish : Option Instant
  deriving DecidableEq

def Status.initial : Status := ⟨.fresh, "", .unassigned, none, none⟩

structure Update where
  phase : Phase
  message : String
  ticket : TicketLink
  deriving DecidableEq

end Request

structure Request where
  name : String
  uid : String
  version : Option String
  spec : Request.Spec
  status : Request.Status
  deriving DecidableEq

namespace Request

/-- Puts the step on record, together with the window that is asked for. -/
def record (r : Request) (u : Update) : Request :=
  { r with status := ⟨u.phase, u.message, u.ticket, some r.spec.start, some r.spec.finish⟩ }

def opens (r : Request) : Instant := r.status.start.getD r.spec.start

def closes (r : Request) : Instant := r.status.finish.getD r.spec.finish

end Request

end AccessWindow
