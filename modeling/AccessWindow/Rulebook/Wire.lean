import AccessWindow.Fault
import AccessWindow.Json.Choice
import AccessWindow.Json.Printer
import AccessWindow.Json.Record
import AccessWindow.Rulebook.Basic

namespace AccessWindow

open Json

def FieldForm.codec : Codec FieldForm :=
  .choice [("text", .text), ("date", .date), ("select", .select), ("user", .user)] FieldForm.name

def FieldTarget.record : Record FieldTarget where
  title := "struct CustomFieldSettings"
  Maker := _
  make := FieldTarget.mk
  layout :=
    .field (.required "type" FieldForm.codec FieldTarget.kind) <|
    .field (.required "jiraCustomField" .text FieldTarget.field) <|
    .done

def FixedFields.record : Record FixedFields where
  title := "struct RequiredFields"
  Maker := _
  make := FixedFields.mk
  layout :=
    .field (.required "ClusterRole" FieldTarget.record.codec FixedFields.role) <|
    .field (.required "StartTime" FieldTarget.record.codec FixedFields.start) <|
    .field (.required "EndTime" FieldTarget.record.codec FixedFields.finish) <|
    .done

def Site.record : Record Site where
  title := "struct TargetEnvironment"
  Maker := _
  make := Site.mk
  layout :=
    .field (.defaulted "environment" .text Site.environment "") <|
    .field (.defaulted "cluster" .text Site.cluster "") <|
    .done

namespace Rulebook

def record : Record Rulebook where
  title := "struct ConfigDocument"
  Maker := _
  make := Rulebook.mk
  layout :=
    .field (.required "allowedClusterRoles" (.list .text) roles) <|
    .field (.required "jiraWorkflowApproveStatus" .text approvedStatus) <|
    .field (.required "rejectedTransitionID" .text rejectTransition) <|
    .field (.required "completedTransitionID" .text completeTransition) <|
    .field (.required "jiraProject" .text project) <|
    .field (.required "jiraIssueType" .text issueType) <|
    .field (.required "requiredFields" FixedFields.record.codec Rulebook.required) <|
    .field (.defaulted "customFields" (.dict FieldTarget.record.codec) custom .empty) <|
    .field (.defaulted "labels" (.list .text) labels []) <|
    .field (.defaulted "environment" Site.record.codec site ⟨"", ""⟩) <|
    .field (.defaulted "additionalCommentText" .text comment "") <|
    .field (.sparse "namespaceAllowedRegex" (.option .text) namespacePattern none Option.isNone) <|
    .field (.defaulted "selfApprovalEnabled" .flag selfApproval false) <|
    .done

def ofBytes (bs : List UInt8) : Except Fault Rulebook :=
  match record.codec.decodeText bs with
  | .ok book => .ok book
  | .error flaw => .error (.configuration ("failed to parse configuration document: " ++ flaw.text))

def toText (book : Rulebook) : String := Json.prettyText (record.codec.write book)

end Rulebook

end AccessWindow
