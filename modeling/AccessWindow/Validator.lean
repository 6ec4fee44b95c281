import AccessWindow.Policy
import AccessWindow.Program

namespace AccessWindow

open Program

/-- Whether accounts are looked up, and whether a requester may stand in the fields for other
people. -/
structure Validator where
  identities : Bool
  selfApproval : Bool
  deriving DecidableEq

namespace Validator

def account? (handle : String) : Program (Option String) := do
  match ← ask (.accountOf handle) with
  | .ok account => return some account
  | .error (.notFound _) => return none
  | .error f => fail f

def scopeViolation? (spec : Request.Spec) (edition : Edition) (withLabels : Bool) :
    Program (Option Violation) :=
  match Policy.patternViolation? spec edition with
  | some v => return some v
  | none =>
    if withLabels = false ∨ spec.labels.isEmpty then return none
    else do
      let labelled ← call (.namespacesWith spec.labels)
      return Policy.labelViolation? spec labelled

def userFieldViolation? (spec : Request.Spec) (self : Option String) :
    List (String × FieldTarget) → Program (Option Violation)
  | [] => return none
  | (name, _) :: rest => do
    let path := "spec.jiraFields." ++ name
    let value := (spec.fields.get? name).getD ""
    let account ← if Text.blank value then pure none else account? value
    match account with
    | none =>
      return some { path, message := "Jira user does not exist or failed to find user: " ++ name }
    | some account =>
      if self = some account then
        return some {
          path,
          message := "Reporter '" ++ spec.reporter ++ "' cannot be the same as user field '"
            ++ name ++ "'" }
      else userFieldViolation? spec self rest

def identityViolation? (validator : Validator) (spec : Request.Spec) (edition : Edition) :
    Program (Option Violation) :=
  if validator.identities then do
    match ← account? spec.reporter with
    | none =>
      return some {
        path := "spec.userEmail",
        message := "failed to find reporter user: " ++ spec.reporter }
    | some account =>
      let book := edition.rulebook
      let self := if validator.selfApproval || book.selfApproval then none else some account
      userFieldViolation? spec self (book.custom.entries.filter fun e => e.2.kind = .user)
  else return none

def violation? (validator : Validator) (spec : Request.Spec) (edition : Edition) (now : Instant) :
    Program (Option Violation) :=
  match Policy.roleViolation? spec edition <|> Policy.startViolation? spec now
      <|> Policy.windowViolation? spec with
  | some v => return some v
  | none => do
    match ← scopeViolation? spec edition true with
    | some v => return some v
    | none =>
      match Policy.fieldViolation? spec edition with
      | some v => return some v
      | none => validator.identityViolation? spec edition

end Validator

end AccessWindow
