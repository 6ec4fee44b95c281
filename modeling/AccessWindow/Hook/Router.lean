import AccessWindow.Hook.Admission
import AccessWindow.Http.MediaType
import AccessWindow.Http.Reply

namespace AccessWindow

structure Http.Incoming where
  method : String
  target : String
  contentType : Option String
  body : List UInt8

def Http.Incoming.path (i : Http.Incoming) : String :=
  String.ofList (i.target.toList.takeWhile (· ≠ '?'))

namespace Hook

open Program Http

def plain (status : Nat) (text : String) : Reply := ⟨status, .text text⟩

def readReview (i : Incoming) : Except Reply Review :=
  if (i.contentType.map MediaType.isJson).getD false = false then
    .error (plain 415 "Expected request with `Content-Type: application/json`")
  else
    match Review.record.codec.decodeText i.body with
    | .ok review => .ok review
    | .error .malformed =>
      .error (plain 400 "Failed to parse the request body as JSON: malformed JSON")
    | .error (.mismatch reason) =>
      let complaint := "Failed to deserialize the JSON body into the target type: "
      .error (plain 422 (complaint ++ reason.text))

def reviewReply (validator : Validator) (i : Incoming) : Program Reply := do
  match readReview i with
  | .error reply => return reply
  | .ok review =>
    match review.submission with
    | none => return (Fault.invalid "admission review is missing its request").reply
    | some s =>
      let v ← verdict validator s
      return ⟨200, .json (v.review review.apiVersion s.uid)⟩

def healthReply : Program Reply := do
  let current ← perform .edition
  let version : Json :=
    match current with
    | some e => .nat e.version
    | none => .null
  return ⟨if current.isSome then 200 else 503,
    .json (.object [
      ("status", .string "ok"), ("ready", .bool current.isSome), ("config_version", version)])⟩

def respond (validator : Validator) (i : Incoming) : Program Reply := do
  if i.path = "/validate-jitrequest" then
    if i.method = "POST" then reviewReply validator i else return plain 405 ""
  else if i.path = "/healthz" then
    if i.method = "GET" then healthReply
    else if i.method = "HEAD" then return { (← healthReply) with body := .text "" }
    else return plain 405 ""
  else return plain 404 ""

end Hook

end AccessWindow
