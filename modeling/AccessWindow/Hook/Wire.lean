import AccessWindow.Request.Wire

namespace AccessWindow.Hook

open Json

structure Submission where
  uid : String
  operation : String
  name : Option String
  object : Option Json

structure Review where
  apiVersion : Option String
  submission : Option Submission

structure Submitted where
  name : Option String
  spec : Request.Spec

def Submission.record : Record Submission where
  title := "a submission"
  Maker := _
  make := Submission.mk
  layout :=
    .field (.required "uid" .text Submission.uid) <|
    .field (.required "operation" .text Submission.operation) <|
    .field (.defaulted "name" (.option .text) Submission.name none) <|
    .field (.defaulted "object" (.option .json) Submission.object none) <|
    .done

def Review.record : Record Review where
  title := "a review"
  Maker := _
  make := Review.mk
  layout :=
    .field (.defaulted "apiVersion" (.option .text) Review.apiVersion none) <|
    .field (.defaulted "request" (.option Submission.record.codec) Review.submission none) <|
    .done

def nameRecord : Record (Option String) where
  title := "struct AdmissionObjectMeta"
  Maker := _
  make := id
  layout := .field (.defaulted "name" (.option .text) id none) <| .done

def Submitted.record : Record Submitted where
  title := "struct AdmissionObject"
  Maker := _
  make := Submitted.mk
  layout :=
    .field (.defaulted "metadata" nameRecord.codec Submitted.name none) <|
    .field (.required "spec" Request.Spec.record.codec Submitted.spec) <|
    .done

inductive Verdict
  | allowed
  | denied (code : Nat) (message : String)
  deriving DecidableEq

def Verdict.json (uid : String) : Verdict → Json
  | .allowed => .object [("uid", .string uid), ("allowed", .bool true)]
  | .denied code message =>
    .object [("uid", .string uid), ("allowed", .bool false),
      ("status", .object [("code", .nat code), ("message", .string message)])]

def Verdict.review (v : Verdict) (apiVersion : Option String) (uid : String) : Json :=
  .object [
    ("apiVersion", .string (apiVersion.getD "admission.k8s.io/v1")),
    ("kind", .string "AdmissionReview"),
    ("response", v.json uid)]

end AccessWindow.Hook
