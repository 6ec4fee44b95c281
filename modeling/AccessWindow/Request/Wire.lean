import AccessWindow.Json.Record
import AccessWindow.Request.Basic
import AccessWindow.Time.Rfc3339

namespace AccessWindow

open Json

def Instant.codec : Codec Instant where
  read _ d :=
    match d with
    | .string (some s) =>
      match Time.Rfc3339.read s with
      | .ok t => .ok t
      | .error complaint => .error (.mismatch (.refused complaint.text))
    | d => .error (d.unexpected "an RFC 3339 formatted date and time string")
  write t := .string (Time.Rfc3339.text t)

def Phase.codec : Codec Phase := Codec.text.map Phase.ofText Phase.text

def TicketLink.codec : Codec TicketLink := Codec.text.map TicketLink.ofText TicketLink.text

namespace Request

def Spec.record : Record Spec where
  title := "struct JitRequestSpec"
  Maker := _
  make := Spec.mk
  layout :=
    .field (.required "reporter" .text Spec.reporter) <|
    .field (.defaulted "additionalUserEmails" (.list .text) Spec.others []) <|
    .field (.required "clusterRole" .text Spec.role) <|
    .field (.required "namespaces" (.list .text) Spec.namespaces) <|
    .field (.defaulted "namespaceLabels" (.dict .text) Spec.labels .empty) <|
    .field (.required "startTime" Instant.codec Spec.start) <|
    .field (.required "endTime" Instant.codec Spec.finish) <|
    .field (.defaulted "jiraFields" (.dict .text) Spec.fields .empty) <|
    .done

def Status.record : Record Status where
  title := "struct JitRequestStatus"
  Maker := _
  make := Status.mk
  layout :=
    .field (.defaulted "state" Phase.codec Status.phase .fresh) <|
    .field (.defaulted "message" .text Status.message "") <|
    .field (.defaulted "jiraTicket" TicketLink.codec Status.ticket .unassigned) <|
    .field (.sparse "startTime" (.option Instant.codec) Status.start none Option.isNone) <|
    .field (.sparse "endTime" (.option Instant.codec) Status.finish none Option.isNone) <|
    .done

end Request

end AccessWindow
