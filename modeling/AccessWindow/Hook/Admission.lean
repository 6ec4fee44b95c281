import AccessWindow.Hook.Wire
import AccessWindow.Validator

namespace AccessWindow.Hook

open Program

def Submission.isDeletion (s : Submission) : Bool := Text.eqIgnoreCase s.operation "DELETE"

def judge (validator : Validator) (spec : Request.Spec) : Program Verdict := do
  match ← attempt edition with
  | .error f => return .denied 500 f.text
  | .ok e =>
    match ← attempt (validator.violation? spec e (← now)) with
    | .ok none => return .allowed
    | .ok (some v) => return .denied 403 v.text
    | .error f => return .denied 500 f.text

def verdict (validator : Validator) (s : Submission) : Program Verdict :=
  if s.isDeletion then return .allowed
  else
    match s.object with
    | none => return .denied 400 "admission request carries no object"
    | some object =>
      match Submitted.record.codec.decodeValue object with
      | .error flaw => return .denied 400 ("failed to decode JitRequest: " ++ flaw.text)
      | .ok submitted => judge validator submitted.spec

end AccessWindow.Hook
