import AccessWindow.Dict

namespace AccessWindow

inductive FieldForm
  | text
  | date
  | select
  | user
  deriving DecidableEq

def FieldForm.name : FieldForm → String
  | .text => "text"
  | .date => "date"
  | .select => "select"
  | .user => "user"

structure FieldTarget where
  kind : FieldForm
  field : String
  deriving DecidableEq

structure FixedFields where
  role : FieldTarget
  start : FieldTarget
  finish : FieldTarget
  deriving DecidableEq

structure Site where
  environment : String
  cluster : String
  deriving DecidableEq

structure Rulebook where
  roles : List String
  approvedStatus : String
  rejectTransition : String
  completeTransition : String
  project : String
  issueType : String
  required : FixedFields
  custom : Dict FieldTarget
  labels : List String
  site : Site
  comment : String
  namespacePattern : Option String
  selfApproval : Bool
  deriving DecidableEq

def Rulebook.standard : Rulebook where
  roles := ["edit"]
  approvedStatus := "Approved"
  rejectTransition := "21"
  completeTransition := "41"
  project := "IAM"
  issueType := "Access Request"
  required :=
    ⟨⟨.text, "customfield_10117"⟩, ⟨.date, "customfield_10118"⟩, ⟨.date, "customfield_10119"⟩⟩
  custom := .ofList [
    ("Approver", ⟨.user, "customfield_10114"⟩),
    ("ProductOwner", ⟨.user, "customfield_10115"⟩),
    ("Justification", ⟨.text, "customfield_10116"⟩)]
  labels := ["default-config"]
  site := ⟨"dev-test", "minikube"⟩
  comment := "config: default"
  namespacePattern := some ".*"
  selfApproval := false

end AccessWindow
