import AccessWindow.Json.Value
import AccessWindow.Request.Basic
import AccessWindow.Rulebook.Edition
import AccessWindow.Time.Rfc3339

namespace AccessWindow.Ticket

structure FieldValue where
  field : String
  kind : FieldForm
  value : String
  deriving DecidableEq

namespace FieldValue

def of (target : FieldTarget) (value : String) : FieldValue := ⟨target.field, target.kind, value⟩

def encoded (v : FieldValue) : Json :=
  match v.kind with
  | .text | .date => .string v.value
  | .select => .object [("value", .string v.value)]
  | .user => .object [("name", .string v.value)]

end FieldValue

structure Draft where
  project : String
  issueType : String
  summary : String
  reporter : String
  labels : List String
  fields : List FieldValue
  deriving DecidableEq

def Draft.ofRequest (spec : Request.Spec) (account : String) (edition : Edition) : Draft :=
  let book := edition.rulebook
  { project := book.project
    issueType := book.issueType
    summary := "Automated JIT request for " ++ spec.reporter
    reporter := account
    labels :=
      (book.labels
        ++ ["jitgate", "automated_jit_request", book.site.cluster, book.site.environment])
        |>.filter fun label => !Text.blank label
    fields :=
      .of book.required.role spec.role ::
      .of book.required.start (Time.Rfc3339.millisText spec.start) ::
      .of book.required.finish (Time.Rfc3339.millisText spec.finish) ::
      book.custom.entries.map fun (name, target) => .of target ((spec.fields.get? name).getD "") }

def tinted (color text : String) : String :=
  "\x7bcolor:" ++ color ++ "\x7d*" ++ text ++ "*\x7bcolor\x7d"

def green : String := "#00875a"

def red : String := "#de350b"

def preApprovalMessage : String :=
  "Pre-approval - Access will be granted at start time pending human approval(s)"

def grantedMessage : String := "Access granted until end time"

def preApprovedNote (spec : Request.Spec) (additional : String) : String :=
  tinted green preApprovalMessage
    ++ "\n|*Namespace(s)*|" ++ Text.join "\n" spec.namespaces ++ "|"
    ++ "\n|*User*|" ++ spec.reporter ++ "|"
    ++ (if spec.others = [] then ""
        else "\n|*Additional Users*|" ++ Text.join "\n" spec.others ++ "|")
    ++ (if additional = "" then "" else "\n\n*Additional Info:*\n" ++ additional)

def doneNote : String := tinted green ("Completed - " ++ grantedMessage)

def rejectedNote (message : String) : String := tinted red ("Rejected - " ++ message)

end AccessWindow.Ticket
