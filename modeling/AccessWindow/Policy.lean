import AccessWindow.Request.Basic
import AccessWindow.Rulebook.Edition
import AccessWindow.Time.Rfc3339

namespace AccessWindow

structure Violation where
  path : String
  message : String
  scopes : List String := []
  deriving DecidableEq

def Violation.text (v : Violation) : String := v.path ++ ": Invalid value: " ++ v.message

namespace Policy

open Request

def roleViolation? (spec : Spec) (edition : Edition) : Option Violation :=
  if edition.allowsRole spec.role then none
  else
    let roles := Text.join ", " edition.rulebook.roles
    some { path := "spec.clusterRole", message := "clusterRole must be one of '" ++ roles ++ "'" }

def startViolation? (spec : Spec) (now : Instant) : Option Violation :=
  if now < spec.start then none
  else some { path := "spec.startTime", message := "start time must be after current time" }

def windowViolation? (spec : Spec) : Option Violation :=
  if spec.endsAfterStart then none
  else
    let start := Time.Rfc3339.offsetText spec.start
    some { path := "spec.endTime", message := "end time must be after startTime '" ++ start ++ "'" }

def patternViolation? (spec : Spec) (edition : Edition) : Option Violation :=
  match edition.pattern with
  | none => none
  | some pattern =>
    (spec.namespaces.find? fun ns => !pattern.matchesIn ns).map fun ns =>
      { path := "spec.namespaces",
        message := "namespace does not match the allowed pattern: "
          ++ edition.rulebook.patternText?.getD "",
        scopes := [ns] }

def labelViolation? (spec : Spec) (labelled : List String) : Option Violation :=
  let astray := spec.namespaces.filter fun ns => !labelled.contains ns
  if spec.labels.isEmpty ∨ astray = [] then none
  else
    let labels := Text.join ", " (spec.labels.entries.map fun e => e.1 ++ "=" ++ e.2)
    some { path := "spec.namespaces",
           message := "the following namespaces do not match the specified labels (" ++ labels
             ++ "): [" ++ Text.join " " astray ++ "]",
           scopes := astray }

def missingField? (spec : Spec) (edition : Edition) : Option String :=
  edition.rulebook.custom.keys.find? fun name => !spec.fields.contains name

def fieldViolation? (spec : Spec) (edition : Edition) : Option Violation :=
  (missingField? spec edition).map fun name =>
    { path := "spec.jiraFields", message := "missing custom field: " ++ name }

end Policy

end AccessWindow
